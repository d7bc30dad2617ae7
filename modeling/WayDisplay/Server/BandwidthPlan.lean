import Mathlib.Tactic.Common

/-!
The connection-level bandwidth plan (`wd_bandwidth_plan.c`).

A link rate is divided into classes by fixed percentages, each rounded down.
Audio has a cap of its own, and the bitrate of the audio encoder is selected so
that the bitrate with its transport allowance stays below that cap.  Rates are
64-bit, bitrates 32-bit; only the sum of a plan and the scaled cap are computed
in 128 bits.  The token buckets, which meter with floating point, are left out.
-/

namespace WayDisplay.Server

def videoPercent : UInt32 := 75

def tileFreshPercent : UInt32 := 70

def tileRepairPercent : UInt32 := 5

def audioPercent : UInt32 := 10

def controlPercent : UInt32 := 10

def overheadPercent : UInt32 := 5

def audioTransportAllowancePercent : UInt32 := 20

/-! ## Percentages and wire cost -/

def percentOf (value : UInt64) (percent : UInt32) : UInt64 :=
  value / 100 * percent.toUInt64 + value % 100 * percent.toUInt64 / 100

theorem toNat_percentOf (value : UInt64) {percent : UInt32}
    (proper : percent.toNat ≤ 100) :
    (percentOf value percent).toNat = value.toNat * percent.toNat / 100 := by
  have bounded := value.toNat_lt
  have whole : value.toNat / 100 * percent.toNat ≤ value.toNat / 100 * 100 :=
    Nat.mul_le_mul_left _ proper
  have rest : value.toNat % 100 * percent.toNat ≤ value.toNat % 100 * 100 :=
    Nat.mul_le_mul_left _ proper
  have parts : value.toNat * percent.toNat =
      100 * (value.toNat / 100 * percent.toNat) +
        value.toNat % 100 * percent.toNat := by
    rw [← Nat.mul_assoc, ← Nat.add_mul, Nat.div_add_mod]
  simp only [percentOf, UInt64.toNat_add, UInt64.toNat_mul, UInt64.toNat_div,
    UInt64.toNat_mod, UInt32.toNat_toUInt64, UInt64.reduceToNat]
  rw [parts, Nat.mul_add_div (by omega)]
  rw [Nat.mod_eq_of_lt (a := value.toNat / 100 * percent.toNat) (by omega),
    Nat.mod_eq_of_lt (a := value.toNat % 100 * percent.toNat) (by omega),
    Nat.mod_eq_of_lt (by omega)]

def audioWireBytesPerSecond (bitrate : UInt32) : UInt64 :=
  if bitrate = 0 then 0
  else
    let payload := (bitrate.toUInt64 + 7) / 8
    payload + percentOf payload audioTransportAllowancePercent

theorem toNat_audioWireBytesPerSecond (bitrate : UInt32) :
    (audioWireBytesPerSecond bitrate).toNat =
      (bitrate.toNat + 7) / 8 + (bitrate.toNat + 7) / 8 / 5 := by
  have bounded := bitrate.toNat_lt
  unfold audioWireBytesPerSecond
  split
  · rename_i zero
    simp [zero]
  · have allowance : audioTransportAllowancePercent.toNat = 20 := rfl
    have proper : audioTransportAllowancePercent.toNat ≤ 100 := by decide
    simp only [UInt64.toNat_add, toNat_percentOf _ proper, allowance,
      UInt64.toNat_div, UInt32.toNat_toUInt64, UInt64.reduceToNat]
    omega

def audioCap (linkBytesPerSecond : UInt64) : UInt64 :=
  percentOf linkBytesPerSecond audioPercent

/-! ## Selecting the audio bitrate -/

def lowerToFit (cap : UInt64) (minimum : UInt32) (selected : UInt64) :
    UInt64 :=
  if minimum.toUInt64 ≤ selected ∧
      cap < audioWireBytesPerSecond selected.toUInt32 then
    lowerToFit cap minimum (if 1000 ≤ selected then selected - 1000 else 0)
  else selected
termination_by selected.toNat
decreasing_by
  -- The cost of a zero bitrate is zero and exceeds no cap.
  rename_i exceeds
  have nonzero : selected ≠ 0 := by
    rintro rfl
    exact absurd exceeds.2 (by
      simp [audioWireBytesPerSecond])
  have positive : selected.toNat ≠ 0 := fun zero =>
    nonzero (UInt64.toNat_inj.mp zero)
  split
  · rename_i large
    have less := UInt64.toNat_sub_of_le _ _ large
    simp only [UInt64.reduceToNat] at less
    omega
  · simpa using Nat.pos_of_ne_zero positive

theorem lowerToFit_of_fits {cap selected : UInt64} (minimum : UInt32)
    (fits : audioWireBytesPerSecond selected.toUInt32 ≤ cap) :
    lowerToFit cap minimum selected = selected := by
  rw [lowerToFit, if_neg fun exceeds => absurd exceeds.2 (UInt64.not_lt.mpr fits)]

def startingBitrate (cap : UInt64) (preferred : UInt32) : UInt64 :=
  let allowance := 100 + audioTransportAllowancePercent.toNat
  -- The product is computed in 128 bits.
  let payloadBytesPerSecond := UInt64.ofNat (cap.toNat * 100 / allowance)
  let selected :=
    if 536870911 < payloadBytesPerSecond then 4294967295
    else payloadBytesPerSecond * 8
  let selected :=
    if preferred.toUInt64 < selected then preferred.toUInt64 else selected
  selected - selected % 1000

def audioSelectBitrate (linkBytesPerSecond : UInt64)
    (preferred minimum : UInt32) : UInt32 :=
  if linkBytesPerSecond = 0 ∨ preferred = 0 ∨ minimum = 0 ∨
      preferred < minimum then 0
  else
    let cap := audioCap linkBytesPerSecond
    if cap < audioWireBytesPerSecond minimum then 0
    else if audioWireBytesPerSecond preferred ≤ cap then preferred
    else
      let selected := lowerToFit cap minimum (startingBitrate cap preferred)
      if minimum.toUInt64 ≤ selected then selected.toUInt32 else 0

/-! ## The plan -/

inductive BandwidthMode where
  | tiles
  | video
  deriving DecidableEq, Repr

structure BandwidthPlan where
  linkBytesPerSecond : UInt64
  overheadBytesPerSecond : UInt64
  controlBytesPerSecond : UInt64
  audioRequiredBytesPerSecond : UInt64
  audioCapBytesPerSecond : UInt64
  audioReservedBytesPerSecond : UInt64
  freshTileBytesPerSecond : UInt64
  repairBytesPerSecond : UInt64
  videoBytesPerSecond : UInt64
  deriving DecidableEq, Repr

namespace BandwidthPlan

def build (linkBytesPerSecond : UInt64) (mode : BandwidthMode)
    (audioEnabled : Bool) (audioBitrate : UInt32) : BandwidthPlan :=
  let cap := audioCap linkBytesPerSecond
  let required :=
    if audioEnabled then audioWireBytesPerSecond audioBitrate else 0
  { linkBytesPerSecond
    overheadBytesPerSecond := percentOf linkBytesPerSecond overheadPercent
    controlBytesPerSecond := percentOf linkBytesPerSecond controlPercent
    audioRequiredBytesPerSecond := required
    audioCapBytesPerSecond := cap
    audioReservedBytesPerSecond :=
      if audioEnabled then (if required < cap then required else cap) else 0
    freshTileBytesPerSecond :=
      if mode = .tiles then percentOf linkBytesPerSecond tileFreshPercent else 0
    repairBytesPerSecond :=
      if mode = .tiles then percentOf linkBytesPerSecond tileRepairPercent
      else 0
    videoBytesPerSecond :=
      if mode = .video then percentOf linkBytesPerSecond videoPercent else 0 }

def mediaBytes (plan : BandwidthPlan) : BandwidthMode → UInt64
  | .video => plan.videoBytesPerSecond
  | .tiles => plan.freshTileBytesPerSecond + plan.repairBytesPerSecond

def allocated (plan : BandwidthPlan) (mode : BandwidthMode) : Nat :=
  plan.overheadBytesPerSecond.toNat + plan.controlBytesPerSecond.toNat +
    plan.audioCapBytesPerSecond.toNat +
    match mode with
    | .video => plan.videoBytesPerSecond.toNat
    | .tiles =>
        plan.freshTileBytesPerSecond.toNat + plan.repairBytesPerSecond.toNat

def isValid (plan : BandwidthPlan) (mode : BandwidthMode) : Bool :=
  plan.audioReservedBytesPerSecond ≤ plan.audioCapBytesPerSecond &&
    plan.audioReservedBytesPerSecond = plan.audioRequiredBytesPerSecond &&
    plan.allocated mode ≤ plan.linkBytesPerSecond.toNat

end BandwidthPlan

/-! ## What the selector guarantees -/

/--
Once the preferred bitrate is too dear, the cap is small enough for the 32-bit
limit not to matter.
-/
theorem toNat_startingBitrate {cap : UInt64} {preferred : UInt32}
    (exceeds : cap < audioWireBytesPerSecond preferred) :
    (startingBitrate cap preferred).toNat =
      min (cap.toNat * 100 / 120 * 8) preferred.toNat -
        min (cap.toNat * 100 / 120 * 8) preferred.toNat % 1000 := by
  have bounded := preferred.toNat_lt
  have dear := UInt64.lt_iff_toNat_lt.mp exceeds
  rw [toNat_audioWireBytesPerSecond] at dear
  have small : cap.toNat * 100 / 120 ≤ 536870911 := by omega
  have payload : (UInt64.ofNat (cap.toNat * 100 / 120)).toNat =
      cap.toNat * 100 / 120 :=
    UInt64.toNat_ofNat_of_lt (by simp only [UInt64.size]; omega)
  have scaled : (UInt64.ofNat (cap.toNat * 100 / 120) * 8).toNat =
      cap.toNat * 100 / 120 * 8 := by
    rw [UInt64.toNat_mul, payload]
    exact Nat.mod_eq_of_lt (by simp only [UInt64.reduceToNat]; omega)
  have kept : ¬ 536870911 < UInt64.ofNat (cap.toNat * 100 / 120) := by
    rw [UInt64.lt_iff_toNat_lt, payload]
    exact Nat.not_lt.mpr small
  have allowance : 100 + audioTransportAllowancePercent.toNat = 120 := rfl
  simp only [startingBitrate, allowance, if_neg kept]
  -- Both branches of the comparison with the preferred bitrate are its minimum.
  have chosen : (if preferred.toUInt64 <
        UInt64.ofNat (cap.toNat * 100 / 120) * 8 then preferred.toUInt64
      else UInt64.ofNat (cap.toNat * 100 / 120) * 8).toNat =
      min (cap.toNat * 100 / 120 * 8) preferred.toNat := by
    split
    · rename_i less
      rw [UInt64.lt_iff_toNat_lt, scaled, UInt32.toNat_toUInt64] at less
      rw [UInt32.toNat_toUInt64, Nat.min_eq_right (Nat.le_of_lt less)]
    · rename_i less
      rw [UInt64.lt_iff_toNat_lt, scaled, UInt32.toNat_toUInt64] at less
      rw [scaled, Nat.min_eq_left (Nat.le_of_not_lt less)]
  rw [UInt64.toNat_sub_of_le, UInt64.toNat_mod, chosen]
  · rfl
  · rw [UInt64.le_iff_toNat_le, UInt64.toNat_mod]
    exact Nat.mod_le _ _

/-- What the selected bitrate owes to the cap, the minimum and the preference. -/
structure Selected (cap : UInt64) (preferred minimum bitrate : UInt32) :
    Prop where
  atLeast : minimum ≤ bitrate
  atMost : bitrate ≤ preferred
  fits : audioWireBytesPerSecond bitrate ≤ cap
  dearer : ∀ other : UInt32, bitrate.toNat + 2000 ≤ other.toNat →
    other ≤ preferred → cap < audioWireBytesPerSecond other

variable {preferred minimum : UInt32}

theorem selected_preferred {cap : UInt64} (ordered : minimum ≤ preferred)
    (fits : audioWireBytesPerSecond preferred ≤ cap) :
    Selected cap preferred minimum preferred where
  atLeast := ordered
  atMost := UInt32.le_refl _
  fits := fits
  dearer other beyond within := by
    have within := UInt32.le_iff_toNat_le.mp within
    omega

/--
The three roundings, in exact arithmetic: a multiple of a thousand has a whole
number of payload bytes and a whole fifth of them, so taking the allowance off
the cap keeps the minimum, and the selection exceeds no cap.
-/
theorem selected_starting {cap : UInt64} (thousands : minimum.toNat % 1000 = 0)
    (ordered : minimum ≤ preferred)
    (affordable : audioWireBytesPerSecond minimum ≤ cap)
    (exceeds : cap < audioWireBytesPerSecond preferred) :
    Selected cap preferred minimum (startingBitrate cap preferred).toUInt32 := by
  have value := toNat_startingBitrate exceeds
  have bounded := preferred.toNat_lt
  have ordered := UInt32.le_iff_toNat_le.mp ordered
  have affordable := UInt64.le_iff_toNat_le.mp affordable
  rw [toNat_audioWireBytesPerSecond] at affordable
  have narrowed : (startingBitrate cap preferred).toUInt32.toNat =
      (startingBitrate cap preferred).toNat := by
    rw [UInt64.toNat_toUInt32]
    exact Nat.mod_eq_of_lt (by omega)
  refine ⟨?_, ?_, ?_, fun other beyond within => ?_⟩
  · rw [UInt32.le_iff_toNat_le, narrowed, value]
    omega
  · rw [UInt32.le_iff_toNat_le, narrowed, value]
    omega
  · rw [UInt64.le_iff_toNat_le, toNat_audioWireBytesPerSecond, narrowed, value]
    omega
  · rw [UInt64.lt_iff_toNat_lt, toNat_audioWireBytesPerSecond]
    have within := UInt32.le_iff_toNat_le.mp within
    rw [narrowed, value] at beyond
    omega

theorem audioSelectBitrate_of_dear {link : UInt64}
    (dear : audioCap link < audioWireBytesPerSecond minimum) :
    audioSelectBitrate link preferred minimum = 0 := by
  unfold audioSelectBitrate
  split
  · rfl
  · exact if_pos dear

theorem selected_of_affordable {link : UInt64} (linked : link ≠ 0)
    (positive : minimum ≠ 0) (thousands : minimum % 1000 = 0)
    (ordered : minimum ≤ preferred)
    (affordable : audioWireBytesPerSecond minimum ≤ audioCap link) :
    Selected (audioCap link) preferred minimum
      (audioSelectBitrate link preferred minimum) := by
  have wanted : preferred ≠ 0 := by
    rintro rfl
    exact positive (UInt32.le_antisymm ordered UInt32.zero_le)
  have accepted : ¬ (link = 0 ∨ preferred = 0 ∨ minimum = 0 ∨
      preferred < minimum) := by
    rintro (zero | zero | zero | less)
    · exact linked zero
    · exact wanted zero
    · exact positive zero
    · exact UInt32.not_lt.mpr ordered less
  simp only [audioSelectBitrate, if_neg accepted,
    if_neg (UInt64.not_lt.mpr affordable)]
  split
  · rename_i fits
    exact selected_preferred ordered fits
  · rename_i exceeds
    have multiple : minimum.toNat % 1000 = 0 := by
      simpa using congrArg UInt32.toNat thousands
    have chosen := selected_starting multiple ordered affordable
      (UInt64.not_le.mp exceeds)
    rw [lowerToFit_of_fits minimum chosen.fits]
    have enough : minimum.toUInt64 ≤
        startingBitrate (audioCap link) preferred := by
      have atLeast := UInt32.le_iff_toNat_le.mp chosen.atLeast
      rw [UInt64.toNat_toUInt32] at atLeast
      rw [UInt64.le_iff_toNat_le, UInt32.toNat_toUInt64]
      exact Nat.le_trans atLeast (Nat.mod_le _ _)
    rw [if_pos enough]
    exact chosen

/-! ## The plan of a selected bitrate -/

namespace BandwidthPlan

theorem allocated_build (link : UInt64) (mode : BandwidthMode)
    (audioEnabled : Bool) (audioBitrate : UInt32) :
    (build link mode audioEnabled audioBitrate).allocated mode ≤
      link.toNat := by
  have overhead : overheadPercent.toNat = 5 := rfl
  have control : controlPercent.toNat = 10 := rfl
  have audio : audioPercent.toNat = 10 := rfl
  have video : videoPercent.toNat = 75 := rfl
  have fresh : tileFreshPercent.toNat = 70 := rfl
  have repair : tileRepairPercent.toNat = 5 := rfl
  have shares : ∀ percent : UInt32, percent.toNat ≤ 100 →
      (percentOf link percent).toNat = link.toNat * percent.toNat / 100 :=
    fun percent => toNat_percentOf link
  cases mode <;>
    simp (disch := decide) only [build, allocated, audioCap, shares, overhead,
      control, audio, video, fresh, repair, if_pos]
  · omega
  · omega

theorem isValid_build (link : UInt64) (mode : BandwidthMode)
    (bitrate : UInt32) (fits : audioWireBytesPerSecond bitrate ≤ audioCap link) :
    (build link mode true bitrate).isValid mode = true := by
  have reserved : (build link mode true bitrate).audioReservedBytesPerSecond =
      audioWireBytesPerSecond bitrate := by
    simp only [build, if_true]
    split
    · rfl
    · rename_i full
      exact UInt64.le_antisymm (UInt64.not_lt.mp full) fits
  simp only [isValid, Bool.and_eq_true, decide_eq_true_eq, reserved]
  exact ⟨⟨fits, rfl⟩, allocated_build link mode true bitrate⟩

end BandwidthPlan

/--
The bitrate selector: it gives up exactly when the minimum is too dear, and
otherwise its choice is admissible, within two thousand of the best one, and
makes a valid plan in both modes.
-/
theorem audioSelectBitrate_spec (link : UInt64) (preferred minimum : UInt32)
    (linked : link ≠ 0) (positive : minimum ≠ 0)
    (thousands : minimum % 1000 = 0) (ordered : minimum ≤ preferred) :
    (audioSelectBitrate link preferred minimum = 0 ↔
      audioCap link < audioWireBytesPerSecond minimum) ∧
    (audioWireBytesPerSecond minimum ≤ audioCap link →
      Selected (audioCap link) preferred minimum
        (audioSelectBitrate link preferred minimum)) ∧
    (audioSelectBitrate link preferred minimum ≠ 0 → ∀ mode,
      (BandwidthPlan.build link mode true
        (audioSelectBitrate link preferred minimum)).isValid mode = true) := by
  have chosen := fun affordable =>
    selected_of_affordable linked positive thousands ordered affordable
  have affordable : audioSelectBitrate link preferred minimum ≠ 0 →
      audioWireBytesPerSecond minimum ≤ audioCap link := fun nonzero =>
    UInt64.not_lt.mp fun dear => nonzero (audioSelectBitrate_of_dear dear)
  refine ⟨⟨fun zero => ?_, audioSelectBitrate_of_dear⟩, chosen,
    fun nonzero mode => ?_⟩
  · by_contra notDear
    have atLeast := (chosen (UInt64.not_lt.mp notDear)).atLeast
    rw [zero] at atLeast
    exact positive (UInt32.le_antisymm atLeast UInt32.zero_le)
  · exact BandwidthPlan.isValid_build link mode _
      (chosen (affordable nonzero)).fits

/-- A link of 100 KiB/s between the encoder's usual limits. -/
theorem audioSelectBitrate_spec_slowLink :
    (102400 : UInt64) ≠ 0 ∧
    ∀ mode, (BandwidthPlan.build 102400 mode true
      (audioSelectBitrate 102400 128000 24000)).isValid mode = true := by
  refine ⟨by decide, ?_⟩
  have spec := audioSelectBitrate_spec 102400 128000 24000 (by decide)
    (by decide) (by decide) (by decide)
  have affordable : ¬ audioCap 102400 < audioWireBytesPerSecond 24000 := by
    decide
  exact spec.2.2 fun zero => affordable (spec.1.mp zero)

end WayDisplay.Server
