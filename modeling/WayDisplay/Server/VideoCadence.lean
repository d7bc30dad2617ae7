import Mathlib.Order.OrderIsoNat
import WayDisplay.Server.VideoTransition

/-!
The video cadence loop (`wd_video_transition.c`, `wd_stream.c`).

Once per window the controller folds the client's mean decode time into a moving
average, derives the frame rate the decoder can sustain, and moves the capture
rate: down at once, up after fifteen good windows.  The sums and counts of decode
times come from the network as they are; all arithmetic on them is 64-bit.  A
division by zero has no result.  Pacing and the upshift and downshift counters
are left out.
-/

namespace WayDisplay.Server

def sessionFpsDefault : UInt16 := 60

def sessionFpsMax : UInt16 := 240

def streamFpsMin : UInt16 := 5

def decodeHeadroomPercent : UInt32 := 85

def decodeEwmaNewNumerator : UInt32 := 1

def decodeEwmaDenominator : UInt32 := 4

def videoFpsDeadband : UInt16 := 3

def videoOverloadDecreasePercent : UInt32 := 90

def videoFpsIncreaseStep : UInt16 := 3

def videoFpsGoodSecondsToIncrease : UInt32 := 15

/-! ## The decode average and the rate it allows -/

/-- Unsigned division; a zero divisor traps. -/
def divideU64 (numerator divisor : UInt64) : Option UInt64 :=
  if divisor = 0 then none else some (numerator / divisor)

def clampFps (fps : UInt64) (requestedFps : UInt16) : UInt16 :=
  let fps := if fps = 0 then 1 else fps
  let fps := if requestedFps.toUInt64 < fps then requestedFps.toUInt64 else fps
  fps.toUInt16

def safeDecodeFps (averageDecodeNs : UInt64) (requestedFps : UInt16)
    (headroomPercent : UInt32) : Option UInt16 :=
  if requestedFps = 0 then some 0
  else if averageDecodeNs = 0 ∨ headroomPercent = 0 ∨ 100 < headroomPercent then
    some requestedFps
  else
    let numerator := 1000000000 * headroomPercent.toUInt64
    (divideU64 numerator (averageDecodeNs * 100)).map
      fun fps => clampFps fps requestedFps

def decodeEwmaUpdate (currentEwmaNs sampleNs : UInt64)
    (newSampleNumerator denominator : UInt32) : UInt64 :=
  if sampleNs = 0 then currentEwmaNs
  else if currentEwmaNs = 0 ∨ denominator = 0 ∨ newSampleNumerator = 0 ∨
      denominator ≤ newSampleNumerator then sampleNs
  else
    let oldWeight := (denominator - newSampleNumerator).toUInt64
    (currentEwmaNs * oldWeight + sampleNs * newSampleNumerator.toUInt64) /
      denominator.toUInt64

/-! ## Targets -/

def overloadTarget (currentFps safeFps : UInt16) (overloadPercent : UInt32) :
    Nat :=
  let percent :=
    if overloadPercent = 0 ∨ 100 ≤ overloadPercent then 75
    else overloadPercent.toNat
  let target := currentFps.toNat * percent / 100
  if safeFps ≠ 0 ∧ safeFps.toNat < target then safeFps.toNat else target

def cadenceDownshiftTarget (currentFps requestedFps safeFps : UInt16)
    (hardOverload : Bool) (minimumFps deadbandFps : UInt16)
    (overloadPercent : UInt32) : UInt16 :=
  let currentFps := if currentFps = 0 then requestedFps else currentFps
  let minimumFps := if minimumFps = 0 then 1 else minimumFps
  let target :=
    if hardOverload then overloadTarget currentFps safeFps overloadPercent
    else if safeFps ≠ 0 ∧ safeFps.toNat + deadbandFps.toNat < currentFps.toNat
      then safeFps.toNat
    else currentFps.toNat
  let target := if target < minimumFps.toNat then minimumFps.toNat else target
  let target :=
    if requestedFps ≠ 0 ∧ requestedFps.toNat < target then requestedFps.toNat
    else target
  if currentFps.toNat ≤ target then currentFps else UInt16.ofNat target

def cadenceUpshiftTarget (currentFps requestedFps safeFps deadbandFps
    increaseStep : UInt16) : UInt16 :=
  if currentFps = 0 ∨ requestedFps = 0 ∨ requestedFps ≤ currentFps then
    currentFps
  else if safeFps ≠ 0 ∧ safeFps < requestedFps ∧
      safeFps.toNat ≤ currentFps.toNat + deadbandFps.toNat then currentFps
  else
    let increaseStep := if increaseStep = 0 then 1 else increaseStep
    let target := currentFps.toNat + increaseStep.toNat
    let target :=
      if safeFps ≠ 0 ∧ safeFps.toNat < target then safeFps.toNat else target
    let target :=
      if requestedFps.toNat < target then requestedFps.toNat else target
    UInt16.ofNat target

/-! ## One window -/

def SessionFps : Type :=
  { fps : UInt16 // fps ≠ 0 ∧ fps ≤ sessionFpsMax }

def normalizeClientRequest (requestedFps : UInt16) : SessionFps :=
  if zero : requestedFps = 0 then ⟨sessionFpsDefault, by decide⟩
  else if exceeds : sessionFpsMax < requestedFps then ⟨sessionFpsMax, by decide⟩
  else ⟨requestedFps, zero, UInt16.not_lt.mp exceeds⟩

structure CadenceWindow where
  decodeSamples : UInt64
  decodeSumNs : UInt64
  queueOverflowDrops : UInt64
  framesPresented : UInt64
  decodeQueueDrops : UInt64
  decodeQueueDepthMax : UInt32
  decodeQueueCapacity : UInt16
  renderVisible : Bool
  windowFocused : Bool
  health : ClientVideoHealth
  deriving DecidableEq, Repr

namespace CadenceWindow

def averageDecodeNs (window : CadenceWindow) : UInt64 :=
  if window.decodeSamples ≠ 0 then window.decodeSumNs / window.decodeSamples
  else 0

def presentOverflowPressure (window : CadenceWindow) : Bool :=
  4 ≤ window.queueOverflowDrops &&
    (window.framesPresented = 0 ||
      window.framesPresented / 20 ≤ window.queueOverflowDrops)

def decodeQueuePressure (window : CadenceWindow) : Bool :=
  window.decodeQueueCapacity ≠ 0 &&
    window.decodeQueueCapacity.toUInt32 ≤ window.decodeQueueDepthMax

def cadencePressure (window : CadenceWindow) : Bool :=
  (window.decodeQueueDrops ≠ 0 || window.health = .decoderOverloaded) ||
    (window.renderVisible && (window.presentOverflowPressure ||
      (window.windowFocused && window.decodeQueuePressure)))

def canUpshift (window : CadenceWindow) : Bool :=
  window.renderVisible && window.windowFocused

end CadenceWindow

structure CadencePolicy where
  requestedSessionFps : SessionFps
  adaptiveCaptureFps : UInt16
  videoDecodeEwmaNs : UInt64
  videoDecodeSafeFps : UInt16
  videoFrameRateGoodSeconds : UInt32

namespace CadencePolicy

def effectiveFps (policy : CadencePolicy) : UInt16 :=
  let fps :=
    if policy.adaptiveCaptureFps = 0 then policy.requestedSessionFps.val
    else policy.adaptiveCaptureFps
  let fps := if fps = 0 then sessionFpsDefault else fps
  let fps := if fps < streamFpsMin then streamFpsMin else fps
  if sessionFpsMax < fps then sessionFpsMax else fps

def foldedEwma (policy : CadencePolicy) (window : CadenceWindow) : UInt64 :=
  if window.averageDecodeNs ≠ 0 then
    decodeEwmaUpdate policy.videoDecodeEwmaNs window.averageDecodeNs
      decodeEwmaNewNumerator decodeEwmaDenominator
  else policy.videoDecodeEwmaNs

def downshiftTarget (policy : CadencePolicy) (window : CadenceWindow)
    (safeFps : UInt16) : UInt16 :=
  cadenceDownshiftTarget policy.effectiveFps policy.requestedSessionFps.val
    safeFps window.cadencePressure streamFpsMin videoFpsDeadband
    videoOverloadDecreasePercent

def upshiftTarget (policy : CadencePolicy) (safeFps : UInt16) : UInt16 :=
  cadenceUpshiftTarget policy.effectiveFps policy.requestedSessionFps.val
    safeFps videoFpsDeadband videoFpsIncreaseStep

def withDecode (policy : CadencePolicy) (ewma : UInt64) (safeFps : UInt16) :
    CadencePolicy :=
  { policy with videoDecodeEwmaNs := ewma, videoDecodeSafeFps := safeFps }

def moveFrameRate (policy : CadencePolicy) (window : CadenceWindow) :
    CadencePolicy :=
  let currentFps := policy.effectiveFps
  let safeFps := policy.videoDecodeSafeFps
  if policy.downshiftTarget window safeFps < currentFps then
    { policy with
      videoFrameRateGoodSeconds := 0
      adaptiveCaptureFps := policy.downshiftTarget window safeFps }
  else if !window.canUpshift ∨ window.health ≠ .normal ∨
      window.framesPresented = 0 ∨
      policy.requestedSessionFps.val ≤ currentFps then
    { policy with videoFrameRateGoodSeconds := 0 }
  else if policy.videoFrameRateGoodSeconds + 1 <
      videoFpsGoodSecondsToIncrease then
    { policy with
      videoFrameRateGoodSeconds := policy.videoFrameRateGoodSeconds + 1 }
  else
    { policy with
      videoFrameRateGoodSeconds := 0
      adaptiveCaptureFps :=
        if policy.upshiftTarget safeFps ≠ currentFps then
          policy.upshiftTarget safeFps
        else policy.adaptiveCaptureFps }

def updateVideoFrameRate (policy : CadencePolicy) (window : CadenceWindow) :
    Option CadencePolicy :=
  (safeDecodeFps (policy.foldedEwma window) policy.requestedSessionFps.val
    decodeHeadroomPercent).map fun safeFps =>
      (policy.withDecode (policy.foldedEwma window) safeFps).moveFrameRate
        window

end CadencePolicy

/-! ## Exact arithmetic -/

theorem toNat_clampFps (fps : UInt64) (requestedFps : UInt16) :
    (clampFps fps requestedFps).toNat =
      min (max 1 fps.toNat) requestedFps.toNat := by
  have bounded := requestedFps.toNat_lt
  unfold clampFps
  have lifted : (if fps = 0 then 1 else fps).toNat = max 1 fps.toNat := by
    split
    · rename_i zero
      rw [zero]
      rfl
    · rename_i nonzero
      have positive : fps.toNat ≠ 0 := fun zero =>
        nonzero (UInt64.toNat_inj.mp zero)
      omega
  dsimp only
  generalize (if fps = 0 then 1 else fps) = rate at lifted ⊢
  rw [← lifted, UInt64.toNat_toUInt16]
  split
  · rename_i exceeds
    rw [UInt64.lt_iff_toNat_lt, UInt16.toNat_toUInt64] at exceeds
    rw [UInt16.toNat_toUInt64]
    omega
  · rename_i within
    rw [UInt64.lt_iff_toNat_lt, UInt16.toNat_toUInt64] at within
    omega

def exactSafeFps (averageNs requestedFps : Nat) : Nat :=
  min (max 1 (85 * 1000000000 / (100 * averageNs))) requestedFps

theorem safeDecodeFps_exact (average : UInt64) (requested : SessionFps)
    (fits : average.toNat * 100 < 2 ^ 64) (nonzero : average ≠ 0) :
    ∃ fps, safeDecodeFps average requested.val decodeHeadroomPercent =
        some fps ∧
      fps.toNat = exactSafeFps average.toNat requested.val.toNat := by
  have positive : average.toNat ≠ 0 := fun zero =>
    nonzero (UInt64.toNat_inj.mp zero)
  have product : (average * 100).toNat = average.toNat * 100 := by
    rw [UInt64.toNat_mul]
    exact Nat.mod_eq_of_lt fits
  have divisor : average * 100 ≠ 0 := by
    intro zero
    rw [zero] at product
    simp only [UInt64.reduceToNat] at product
    omega
  have average_known : ¬ (average = 0 ∨ decodeHeadroomPercent = 0 ∨
      100 < decodeHeadroomPercent) := by
    rintro (zero | zero | exceeds)
    · exact nonzero zero
    · exact absurd zero (by decide)
    · exact absurd exceeds (by decide)
  have numerator : (1000000000 * decodeHeadroomPercent.toUInt64).toNat =
      85 * 1000000000 := rfl
  refine ⟨clampFps (1000000000 * decodeHeadroomPercent.toUInt64 /
    (average * 100)) requested.val, ?_, ?_⟩
  · simp only [safeDecodeFps, if_neg requested.property.1, if_neg average_known,
      divideU64, if_neg divisor, Option.map_some]
  · rw [toNat_clampFps, UInt64.toNat_div, numerator, product,
      Nat.mul_comm average.toNat, exactSafeFps]

theorem toNat_decodeEwmaUpdate {current sample : UInt64}
    (known : current ≠ 0) (sampled : sample ≠ 0)
    (fits : current.toNat * 3 + sample.toNat < 2 ^ 64) :
    (decodeEwmaUpdate current sample decodeEwmaNewNumerator
      decodeEwmaDenominator).toNat =
        (current.toNat * 3 + sample.toNat) / 4 := by
  have weighted : ¬ (current = 0 ∨ decodeEwmaDenominator = 0 ∨
      decodeEwmaNewNumerator = 0 ∨
      decodeEwmaDenominator ≤ decodeEwmaNewNumerator) := by
    rintro (zero | zero | zero | heavy)
    · exact known zero
    · exact absurd zero (by decide)
    · exact absurd zero (by decide)
    · exact absurd heavy (by decide)
  have oldWeight : (decodeEwmaDenominator -
      decodeEwmaNewNumerator).toUInt64.toNat = 3 := rfl
  have newWeight : decodeEwmaNewNumerator.toUInt64.toNat = 1 := rfl
  have total : decodeEwmaDenominator.toUInt64.toNat = 4 := rfl
  simp only [decodeEwmaUpdate, if_neg sampled, if_neg weighted,
    UInt64.toNat_div, UInt64.toNat_add, UInt64.toNat_mul, oldWeight, newWeight,
    total]
  omega

namespace CadencePolicy

/-- Neither the weighted sum of the average nor the divisor of the rate leaves
64 bits. -/
structure Fits (policy : CadencePolicy) (window : CadenceWindow) : Prop where
  sum : policy.videoDecodeEwmaNs.toNat * 3 + window.averageDecodeNs.toNat <
    2 ^ 64
  divisor : (policy.foldedEwma window).toNat * 100 < 2 ^ 64

structure ExactUpdate (policy : CadencePolicy) (window : CadenceWindow)
    (next : CadencePolicy) : Prop where
  between : policy.videoDecodeEwmaNs ≠ 0 → window.averageDecodeNs ≠ 0 →
    min policy.videoDecodeEwmaNs.toNat window.averageDecodeNs.toNat ≤
        next.videoDecodeEwmaNs.toNat ∧
      next.videoDecodeEwmaNs.toNat ≤
        max policy.videoDecodeEwmaNs.toNat window.averageDecodeNs.toNat
  positive : 1 ≤ next.videoDecodeSafeFps.toNat
  within : next.videoDecodeSafeFps.toNat ≤ policy.requestedSessionFps.val.toNat
  exact : next.videoDecodeEwmaNs ≠ 0 → next.videoDecodeSafeFps.toNat =
    exactSafeFps next.videoDecodeEwmaNs.toNat
      policy.requestedSessionFps.val.toNat

theorem moveFrameRate_decode (policy : CadencePolicy) (window : CadenceWindow) :
    (policy.moveFrameRate window).videoDecodeEwmaNs =
        policy.videoDecodeEwmaNs ∧
      (policy.moveFrameRate window).videoDecodeSafeFps =
        policy.videoDecodeSafeFps ∧
      (policy.moveFrameRate window).requestedSessionFps =
        policy.requestedSessionFps := by
  unfold moveFrameRate
  dsimp only
  split
  · exact ⟨rfl, rfl, rfl⟩
  · split
    · exact ⟨rfl, rfl, rfl⟩
    · split
      · exact ⟨rfl, rfl, rfl⟩
      · exact ⟨rfl, rfl, rfl⟩

theorem Fits.between {policy : CadencePolicy} {window : CadenceWindow}
    (fits : policy.Fits window) (known : policy.videoDecodeEwmaNs ≠ 0)
    (sampled : window.averageDecodeNs ≠ 0) :
    min policy.videoDecodeEwmaNs.toNat window.averageDecodeNs.toNat ≤
        (policy.foldedEwma window).toNat ∧
      (policy.foldedEwma window).toNat ≤
        max policy.videoDecodeEwmaNs.toNat window.averageDecodeNs.toNat := by
  rw [foldedEwma, if_pos sampled,
    toNat_decodeEwmaUpdate known sampled fits.sum]
  omega

/-- The update of one window computes exactly where no product wraps around. -/
theorem exactUpdate_of_fits (policy : CadencePolicy) (window : CadenceWindow)
    (fits : policy.Fits window) :
    ∃ next, policy.updateVideoFrameRate window = some next ∧
      ExactUpdate policy window next := by
  have requested : policy.requestedSessionFps.val.toNat ≠ 0 := fun zero =>
    policy.requestedSessionFps.property.1 (UInt16.toNat_inj.mp zero)
  -- With or without an average there is a rate, and it is in range.
  have rated : ∃ fps, safeDecodeFps (policy.foldedEwma window)
      policy.requestedSessionFps.val decodeHeadroomPercent = some fps ∧
      1 ≤ fps.toNat ∧ fps.toNat ≤ policy.requestedSessionFps.val.toNat ∧
      (policy.foldedEwma window ≠ 0 → fps.toNat =
        exactSafeFps (policy.foldedEwma window).toNat
          policy.requestedSessionFps.val.toNat) := by
    by_cases unknown : policy.foldedEwma window = 0
    · refine ⟨policy.requestedSessionFps.val, ?_, by omega, by omega,
        fun known => absurd unknown known⟩
      simp only [safeDecodeFps, if_neg policy.requestedSessionFps.property.1,
        unknown, true_or, if_true]
    · obtain ⟨fps, found, value⟩ := safeDecodeFps_exact
        (policy.foldedEwma window) policy.requestedSessionFps fits.divisor
        unknown
      refine ⟨fps, found, ?_, ?_, fun _ => value⟩
      · rw [value, exactSafeFps]
        omega
      · rw [value, exactSafeFps]
        omega
  obtain ⟨fps, found, positive, within, value⟩ := rated
  obtain ⟨ewma, safe, -⟩ := moveFrameRate_decode
    (policy.withDecode (policy.foldedEwma window) fps) window
  refine ⟨_, by rw [updateVideoFrameRate, found, Option.map_some], ?_⟩
  constructor
  · rw [ewma]
    exact fits.between
  · rw [safe]
    exact positive
  · rw [safe]
    exact within
  · rw [ewma, safe]
    exact value

def untouched : CadencePolicy where
  requestedSessionFps := normalizeClientRequest 60
  adaptiveCaptureFps := 60
  videoDecodeEwmaNs := 0
  videoDecodeSafeFps := 0
  videoFrameRateGoodSeconds := 0

end CadencePolicy

def CadenceWindow.decoded (decodeSumNs : UInt64) : CadenceWindow where
  decodeSamples := 1
  decodeSumNs
  queueOverflowDrops := 0
  framesPresented := 60
  decodeQueueDrops := 0
  decodeQueueDepthMax := 0
  decodeQueueCapacity := 8
  renderVisible := true
  windowFocused := true
  health := .normal

/-- A report of 2^62 nanoseconds for one decode divides by zero. -/
theorem decodeReport_divides_by_zero :
    CadencePolicy.untouched.updateVideoFrameRate
      (.decoded 4611686018427387904) = none := by
  decide +kernel

/-- A fall of the mean decode time from years to a second. -/
theorem exactUpdate_afterLongDecode :
    ∃ next, { CadencePolicy.untouched with
        videoDecodeEwmaNs := 200000000000000000 }.updateVideoFrameRate
          (.decoded 1000000000) = some next ∧
      CadencePolicy.ExactUpdate { CadencePolicy.untouched with
        videoDecodeEwmaNs := 200000000000000000 } (.decoded 1000000000) next :=
  CadencePolicy.exactUpdate_of_fits _ _
    ⟨by decide +kernel, by decide +kernel⟩

end WayDisplay.Server
