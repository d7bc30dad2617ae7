import WayDisplay.Server.VideoCadence

/-!
The cadence loop over many windows.

Without overload pressure and at a constant safe rate the capture rate is moved
by the deadband rules only.  Every move leaves the rate where no later window
lowers it, so the rate is monotone from the first move on and settles.
-/

namespace WayDisplay.Server

inductive CadenceMove (safe requested rate next : Nat) : Prop
  | stay (same : next = rate)
  | down (exceeds : safe + 3 < rate) (above : max safe 5 < rate)
      (target : next = max safe 5)
  | up (more : rate < next) (within : next ≤ requested) (sustained : next ≤ safe)

namespace CadencePolicy

structure InRange (policy : CadencePolicy) : Prop where
  atLeast : 5 ≤ policy.adaptiveCaptureFps.toNat
  atMost : policy.adaptiveCaptureFps.toNat ≤
    policy.requestedSessionFps.val.toNat

theorem InRange.effectiveFps {policy : CadencePolicy}
    (inRange : policy.InRange) :
    policy.effectiveFps = policy.adaptiveCaptureFps := by
  have limit := UInt16.le_iff_toNat_le.mp policy.requestedSessionFps.property.2
  have most : sessionFpsMax.toNat = 240 := rfl
  have least : streamFpsMin.toNat = 5 := rfl
  have low := inRange.atLeast
  have high := inRange.atMost
  have nonzero : policy.adaptiveCaptureFps ≠ 0 := by
    intro zero
    rw [zero] at low
    exact absurd low (by decide)
  have large : ¬ policy.adaptiveCaptureFps < streamFpsMin := by
    rw [UInt16.lt_iff_toNat_lt]
    omega
  have small : ¬ sessionFpsMax < policy.adaptiveCaptureFps := by
    rw [UInt16.lt_iff_toNat_lt]
    omega
  simp only [CadencePolicy.effectiveFps, if_neg nonzero, if_neg large,
    if_neg small]

end CadencePolicy

/-! ## The targets in range -/

theorem safeDecodeFps_ne_zero {average : UInt64} {requested : SessionFps}
    {headroom : UInt32} {fps : UInt16}
    (found : safeDecodeFps average requested.val headroom = some fps) :
    fps ≠ 0 := by
  have nonzero := requested.property.1
  unfold safeDecodeFps at found
  rw [if_neg nonzero] at found
  split at found
  · cases found
    exact nonzero
  · obtain ⟨rate, -, rfl⟩ := Option.map_eq_some_iff.mp found
    have value := toNat_clampFps rate requested.val
    have positive : requested.val.toNat ≠ 0 := fun zero =>
      nonzero (UInt16.toNat_inj.mp zero)
    intro zero
    rw [zero] at value
    simp only [UInt16.reduceToNat] at value
    omega

theorem raised_eq_max (rate floor : Nat) :
    (if rate < floor then floor else rate) = max rate floor := by
  split <;> omega

theorem lowered_eq_min (rate ceiling : Nat) :
    (if ceiling < rate then ceiling else rate) = min rate ceiling := by
  split <;> omega

theorem toNat_ofNat_fps {rate : Nat} {limit : UInt16}
    (within : rate ≤ limit.toNat) : (UInt16.ofNat rate).toNat = rate := by
  rw [UInt16.toNat_ofNat']
  exact Nat.mod_eq_of_lt (Nat.lt_of_le_of_lt within limit.toNat_lt)

theorem toNat_cadenceDownshiftTarget {current requested safe : UInt16}
    (atLeast : 5 ≤ current.toNat) (atMost : current.toNat ≤ requested.toNat)
    (known : safe ≠ 0) :
    (cadenceDownshiftTarget current requested safe false streamFpsMin
      videoFpsDeadband videoOverloadDecreasePercent).toNat =
        if safe.toNat + 3 < current.toNat then
          min current.toNat (max safe.toNat 5)
        else current.toNat := by
  have bounded := current.toNat_lt
  have nonzero : current ≠ 0 := by
    rintro rfl
    exact absurd atLeast (by decide)
  have wanted : requested ≠ 0 := by
    rintro rfl
    simp only [UInt16.reduceToNat] at atMost
    omega
  have least : streamFpsMin.toNat = 5 := rfl
  have deadband : videoFpsDeadband.toNat = 3 := rfl
  have minimum : streamFpsMin ≠ 0 := by decide
  simp only [cadenceDownshiftTarget, if_neg nonzero, if_neg minimum, least,
    deadband, ne_eq, known, wanted, not_false_eq_true, true_and,
    Bool.false_eq_true, if_false]
  simp only [raised_eq_max, lowered_eq_min]
  generalize given : (if safe.toNat + 3 < current.toNat then safe.toNat
    else current.toNat) = target
  have goal : (if safe.toNat + 3 < current.toNat then
      min current.toNat (max safe.toNat 5) else current.toNat) =
      min current.toNat (max target 5) := by
    rw [← given]
    split
    · rfl
    · omega
  rw [goal]
  split
  · omega
  · rw [toNat_ofNat_fps (Nat.le_of_lt (Nat.not_le.mp ‹_›))]
    omega

theorem toNat_cadenceUpshiftTarget {current requested safe : UInt16}
    (positive : 5 ≤ current.toNat) (below : current.toNat < requested.toNat)
    (known : safe ≠ 0) :
    (cadenceUpshiftTarget current requested safe videoFpsDeadband
      videoFpsIncreaseStep).toNat =
        if safe.toNat < requested.toNat ∧
            safe.toNat ≤ current.toNat + 3 then current.toNat
        else min (min (current.toNat + 3) safe.toNat) requested.toNat := by
  have bounded := requested.toNat_lt
  have open_ : ¬ (current = 0 ∨ requested = 0 ∨ requested ≤ current) := by
    rintro (rfl | rfl | exceeds)
    · exact absurd positive (by decide)
    · exact absurd below (Nat.not_lt_zero _)
    · exact absurd (UInt16.le_iff_toNat_le.mp exceeds) (Nat.not_le.mpr below)
  have deadband : videoFpsDeadband.toNat = 3 := rfl
  have increase : videoFpsIncreaseStep.toNat = 3 := rfl
  have stepped : videoFpsIncreaseStep ≠ 0 := by decide
  simp only [cadenceUpshiftTarget, if_neg open_, if_neg stepped, deadband,
    increase, ne_eq, known, not_false_eq_true, true_and,
    UInt16.lt_iff_toNat_lt]
  split
  · rfl
  · simp only [lowered_eq_min]
    exact toNat_ofNat_fps (Nat.min_le_right _ _)

/-! ## One window -/

namespace CadencePolicy

theorem moveFrameRate_move {policy : CadencePolicy} {window : CadenceWindow}
    (inRange : policy.InRange) (known : policy.videoDecodeSafeFps ≠ 0)
    (calm : window.cadencePressure = false) :
    CadenceMove policy.videoDecodeSafeFps.toNat
      policy.requestedSessionFps.val.toNat policy.adaptiveCaptureFps.toNat
      (policy.moveFrameRate window).adaptiveCaptureFps.toNat := by
  have low := inRange.atLeast
  have down := toNat_cadenceDownshiftTarget low inRange.atMost known
  simp only [moveFrameRate, downshiftTarget, upshiftTarget, calm,
    inRange.effectiveFps]
  split
  · rename_i lower
    rw [UInt16.lt_iff_toNat_lt, down] at lower
    split at lower
    · rename_i exceeds
      rw [if_pos exceeds] at down
      dsimp only
      exact .down exceeds (by omega) (by omega)
    · exact absurd lower (Nat.lt_irrefl _)
  · split
    · exact .stay rfl
    · rename_i allowed
      split
      · exact .stay rfl
      · have below : policy.adaptiveCaptureFps.toNat <
            policy.requestedSessionFps.val.toNat := by
          rw [← UInt16.lt_iff_toNat_lt, ← UInt16.not_le]
          exact fun exceeds => allowed (.inr (.inr (.inr exceeds)))
        have up := toNat_cadenceUpshiftTarget low below known
        split
        · rename_i changed
          have differs : (cadenceUpshiftTarget policy.adaptiveCaptureFps
              policy.requestedSessionFps.val policy.videoDecodeSafeFps
              videoFpsDeadband videoFpsIncreaseStep).toNat ≠
              policy.adaptiveCaptureFps.toNat := fun same =>
            changed (UInt16.toNat_inj.mp same)
          split at up
          · exact absurd up differs
          · dsimp only
            exact .up (by omega) (by omega) (by omega)
        · exact .stay rfl

theorem updateVideoFrameRate_move {policy next : CadencePolicy}
    {window : CadenceWindow} (inRange : policy.InRange)
    (calm : window.cadencePressure = false)
    (updated : policy.updateVideoFrameRate window = some next) :
    CadenceMove next.videoDecodeSafeFps.toNat
        policy.requestedSessionFps.val.toNat policy.adaptiveCaptureFps.toNat
        next.adaptiveCaptureFps.toNat ∧
      next.requestedSessionFps = policy.requestedSessionFps := by
  obtain ⟨safe, found, rfl⟩ := Option.map_eq_some_iff.mp updated
  obtain ⟨-, kept, requested⟩ := moveFrameRate_decode
    (policy.withDecode (policy.foldedEwma window) safe) window
  have range : (policy.withDecode (policy.foldedEwma window) safe).InRange :=
    ⟨inRange.atLeast, inRange.atMost⟩
  rw [kept, requested]
  exact ⟨moveFrameRate_move range (safeDecodeFps_ne_zero found) calm, rfl⟩

theorem InRange.move {policy next : CadencePolicy} (inRange : policy.InRange)
    {safe : Nat} (requested : next.requestedSessionFps =
      policy.requestedSessionFps)
    (moved : CadenceMove safe policy.requestedSessionFps.val.toNat
      policy.adaptiveCaptureFps.toNat next.adaptiveCaptureFps.toNat) :
    next.InRange := by
  have low := inRange.atLeast
  have high := inRange.atMost
  constructor
  · cases moved <;> omega
  · rw [requested]
    cases moved <;> omega

end CadencePolicy

/-! ## Rates that are never lowered again -/

def Settled (safe rate : Nat) : Prop :=
  rate ≤ max (safe + 3) 5

variable {safe requested rate next : Nat}

theorem CadenceMove.of_settled (moved : CadenceMove safe requested rate next)
    (settled : Settled safe rate) : rate ≤ next ∧ Settled safe next := by
  unfold Settled at settled ⊢
  cases moved with
  | stay same => omega
  | down exceeds above target => omega
  | up more within sustained => omega

theorem CadenceMove.settled_of_ne (moved : CadenceMove safe requested rate next)
    (changed : next ≠ rate) :
    Settled safe next := by
  unfold Settled
  cases moved with
  | stay same => exact absurd same changed
  | down exceeds above target => omega
  | up more within sustained => omega

/-! ## Sequences of windows -/

/--
A sequence of windows without overload pressure at a constant safe rate, from a
rate between the minimum and the requested one.
-/
structure CalmRun (windows : Nat → CadenceWindow)
    (states : Nat → CadencePolicy) (safe : UInt16) : Prop where
  updated : ∀ n,
    (states n).updateVideoFrameRate (windows n) = some (states (n + 1))
  calm : ∀ n, (windows n).cadencePressure = false
  constant : ∀ n, (states (n + 1)).videoDecodeSafeFps = safe
  start : (states 0).InRange

namespace CalmRun

variable {windows : Nat → CadenceWindow} {states : Nat → CadencePolicy}
  {safe : UInt16}

theorem inRange (run : CalmRun windows states safe) (n : Nat) :
    (states n).InRange ∧
      (states n).requestedSessionFps = (states 0).requestedSessionFps := by
  induction n with
  | zero => exact ⟨run.start, rfl⟩
  | succ n ih =>
      obtain ⟨moved, requested⟩ := CadencePolicy.updateVideoFrameRate_move ih.1
        (run.calm n) (run.updated n)
      exact ⟨ih.1.move requested moved, requested.trans ih.2⟩

theorem moved (run : CalmRun windows states safe) (n : Nat) :
    CadenceMove safe.toNat (states 0).requestedSessionFps.val.toNat
      (states n).adaptiveCaptureFps.toNat
      (states (n + 1)).adaptiveCaptureFps.toNat := by
  obtain ⟨range, requested⟩ := run.inRange n
  have move := (CadencePolicy.updateVideoFrameRate_move range (run.calm n)
    (run.updated n)).1
  rw [run.constant n, requested] at move
  exact move

theorem settled_from (run : CalmRun windows states safe) {n : Nat}
    (settled : Settled safe.toNat (states n).adaptiveCaptureFps.toNat)
    (k : Nat) :
    Settled safe.toNat (states (n + k)).adaptiveCaptureFps.toNat := by
  induction k with
  | zero => exact settled
  | succ k ih => exact ((run.moved (n + k)).of_settled ih).2

theorem le_after_change (run : CalmRun windows states safe) {n : Nat}
    (changed : (states (n + 1)).adaptiveCaptureFps.toNat ≠
      (states n).adaptiveCaptureFps.toNat) (k : Nat) :
    (states (n + 1 + k)).adaptiveCaptureFps.toNat ≤
      (states (n + 1 + k + 1)).adaptiveCaptureFps.toNat :=
  ((run.moved _).of_settled
    (run.settled_from ((run.moved n).settled_of_ne changed) k)).1

theorem stable_of_monotone (run : CalmRun windows states safe) {n : Nat}
    (rising : ∀ k, (states (n + k)).adaptiveCaptureFps.toNat ≤
      (states (n + k + 1)).adaptiveCaptureFps.toNat) :
    ∃ last, ∀ m, last ≤ m →
      (states m).adaptiveCaptureFps = (states last).adaptiveCaptureFps := by
  have bounded : ∀ k, (states (n + k)).adaptiveCaptureFps.toNat ≤
      (states 0).requestedSessionFps.val.toNat := fun k => by
    obtain ⟨range, requested⟩ := run.inRange (n + k)
    rw [← requested]
    exact range.atMost
  let rates : ℕ →o Set.Iic (states 0).requestedSessionFps.val.toNat :=
    ⟨fun k => ⟨(states (n + k)).adaptiveCaptureFps.toNat, bounded k⟩,
      monotone_nat_of_le_succ fun k => rising k⟩
  obtain ⟨k, constant⟩ := WellFoundedGT.monotone_chain_condition rates
  refine ⟨n + k, fun m later => UInt16.toNat_inj.mp ?_⟩
  have same := congrArg Subtype.val (constant (m - n) (by omega))
  rw [show m = n + (m - n) by omega]
  exact same.symm

theorem stable (run : CalmRun windows states safe) :
    ∃ last, ∀ m, last ≤ m →
      (states m).adaptiveCaptureFps = (states last).adaptiveCaptureFps := by
  by_cases moves : ∃ n, (states (n + 1)).adaptiveCaptureFps.toNat ≠
      (states n).adaptiveCaptureFps.toNat
  · obtain ⟨n, changed⟩ := moves
    exact run.stable_of_monotone (run.le_after_change changed)
  · -- Without any change the sequence is monotone from the start.
    have still : ∀ n, (states (n + 1)).adaptiveCaptureFps.toNat =
        (states n).adaptiveCaptureFps.toNat := fun n =>
      not_not.mp fun changed => moves ⟨n, changed⟩
    exact @stable_of_monotone _ _ _ run 0 fun k =>
      Nat.le_of_eq (still (0 + k)).symm

end CalmRun

structure CadenceLaw (states : Nat → CadencePolicy) (safe : UInt16) :
    Prop where
  inForce : ∀ n, (states n).effectiveFps = (states n).adaptiveCaptureFps
  neverDownAfterUp : ∀ i j,
    (states i).adaptiveCaptureFps < (states (i + 1)).adaptiveCaptureFps →
    i < j → (states j).adaptiveCaptureFps ≤ (states (j + 1)).adaptiveCaptureFps
  downshift : ∀ n,
    (states (n + 1)).adaptiveCaptureFps < (states n).adaptiveCaptureFps →
    streamFpsMin ≤ (states (n + 1)).adaptiveCaptureFps
  upshift : ∀ n,
    (states n).adaptiveCaptureFps < (states (n + 1)).adaptiveCaptureFps →
    (states (n + 1)).adaptiveCaptureFps ≤
        (states n).requestedSessionFps.val ∧
      (states (n + 1)).adaptiveCaptureFps ≤ safe
  settles : ∃ last, ∀ m, last ≤ m →
    (states m).adaptiveCaptureFps = (states last).adaptiveCaptureFps

theorem cadenceLaw_of_calmRun (windows : Nat → CadenceWindow)
    (states : Nat → CadencePolicy) (safe : UInt16)
    (run : CalmRun windows states safe) : CadenceLaw states safe where
  inForce n := (run.inRange n).1.effectiveFps
  neverDownAfterUp i j raised later := by
    rw [UInt16.lt_iff_toNat_lt] at raised
    have rising := run.le_after_change (Nat.ne_of_gt raised) (j - (i + 1))
    rw [show i + 1 + (j - (i + 1)) = j by omega] at rising
    exact UInt16.le_iff_toNat_le.mpr rising
  downshift n _ := UInt16.le_iff_toNat_le.mpr (run.inRange (n + 1)).1.atLeast
  upshift n raised := by
    rw [UInt16.lt_iff_toNat_lt] at raised
    rw [UInt16.le_iff_toNat_le, UInt16.le_iff_toNat_le, (run.inRange n).2]
    cases run.moved n with
    | stay same => omega
    | down exceeds above target => omega
    | up more within sustained => exact ⟨within, sustained⟩
  settles := run.stable

def CadenceWindow.undecoded : CadenceWindow :=
  { CadenceWindow.decoded 0 with decodeSamples := 0 }

def climbing : Nat → CadencePolicy
  | 0 => { CadencePolicy.untouched with adaptiveCaptureFps := 20 }
  | n + 1 => ((climbing n).withDecode 0 60).moveFrameRate .undecoded

theorem climbing_unmeasured (n : Nat) :
    (climbing n).videoDecodeEwmaNs = 0 ∧
      (climbing n).requestedSessionFps = normalizeClientRequest 60 := by
  induction n with
  | zero => exact ⟨rfl, rfl⟩
  | succ n ih =>
      obtain ⟨ewma, -, requested⟩ := CadencePolicy.moveFrameRate_decode
        ((climbing n).withDecode 0 60) .undecoded
      exact ⟨ewma, requested.trans ih.2⟩

theorem cadenceLaw_of_climbing : CadenceLaw climbing 60 := by
  refine cadenceLaw_of_calmRun (fun _ => .undecoded) climbing 60
    ⟨fun n => ?_, fun _ => by decide, fun n => ?_, by decide, by decide⟩
  · obtain ⟨unmeasured, requested⟩ := climbing_unmeasured n
    have folded : (climbing n).foldedEwma .undecoded = 0 := unmeasured
    rw [CadencePolicy.updateVideoFrameRate, folded, requested]
    rfl
  · exact (CadencePolicy.moveFrameRate_decode
      ((climbing n).withDecode 0 60) .undecoded).2.1

end WayDisplay.Server
