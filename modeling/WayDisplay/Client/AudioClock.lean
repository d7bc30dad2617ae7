import Mathlib.Algebra.Order.Ring.Nat
import WayDisplay.Common.AsyncTcpPolicy
import WayDisplay.Foundation.Runs

/-!
The presentation clock of the audio output (`audio_playback_clock.hpp` and the
postmix callback of `audio_playback.cpp`).

The device counts the samples it has mixed in 32.32 fixed point.  What is heard
is behind that count by one device buffer, and never ahead of what has left the
stream's queue.  Sums and products of 64-bit words that could overflow are
checked ones here, so that a conversion with a result has not overflowed.
-/

namespace WayDisplay.Client

open Foundation Common

def clockFractionOne : Nat := 2 ^ 32

def checkedAdd (a b : Nat) : Option Nat :=
  if a + b ≤ uint64Max then some (a + b) else none

def checkedMul (a b : Nat) : Option Nat :=
  if a * b ≤ uint64Max then some (a * b) else none

/-- `client_audio_frames_to_samples_fp`: no result if a step overflows. -/
def framesToSamplesFp (frames frameRate sampleRate : Nat) : Option Nat :=
  if frameRate = 0 ∨ sampleRate = 0 then some 0
  else if frames / frameRate > uint64Max / sampleRate then some uint64Max
  else do
    let wholeSamples ← checkedMul (frames / frameRate) sampleRate
    let remainderProduct ← checkedMul (frames % frameRate) sampleRate
    let remainderWholeSamples := remainderProduct / frameRate
    let fractionalNumerator := remainderProduct % frameRate
    if uint64Max - wholeSamples < remainderWholeSamples then some uint64Max
    else do
      let wholeSamples ← checkedAdd wholeSamples remainderWholeSamples
      if wholeSamples > uint64Max / clockFractionOne then some uint64Max
      else do
        let scaled ← checkedMul fractionalNumerator clockFractionOne
        let whole ← checkedMul wholeSamples clockFractionOne
        checkedAdd whole (scaled / frameRate)

/-! ## The conversion is exact -/

theorem checkedAdd_eq {a b : Nat} (fits : a + b ≤ uint64Max) :
    checkedAdd a b = some (a + b) :=
  if_pos fits

theorem checkedMul_eq {a b : Nat} (fits : a * b ≤ uint64Max) :
    checkedMul a b = some (a * b) :=
  if_pos fits

theorem mul_div_split (a b c : Nat) (positive : 0 < c) :
    a * b / c = a / c * b + a % c * b / c := by
  conv_lhs => rw [← Nat.div_add_mod a c, Nat.add_mul, Nat.mul_assoc]
  rw [Nat.mul_add_div positive]

theorem mul_mod_split (a b c : Nat) : a * b % c = a % c * b % c := by
  conv_lhs => rw [← Nat.div_add_mod a c, Nat.add_mul, Nat.mul_assoc]
  rw [Nat.mul_add_mod]

section Conversion

variable {frames frameRate sampleRate : Nat}

theorem word_mul_le {a b : Nat} (left : a < 2 ^ 32) (right : b ≤ 2 ^ 32) :
    a * b ≤ uint64Max := by
  have wide := Nat.mul_le_mul (Nat.le_sub_one_of_lt left) right
  rw [uint64Max]
  omega

theorem uint64Max_le_exact (positive : 0 < frameRate)
    (large : 2 ^ 32 ≤ frames * sampleRate / frameRate) :
    min uint64Max (frames * sampleRate * 2 ^ 32 / frameRate) = uint64Max := by
  refine Nat.min_eq_left ?_
  rw [mul_div_split _ _ _ positive]
  refine Nat.le_trans ?_ (Nat.le_add_right _ _)
  have wide := Nat.mul_le_mul_right (2 ^ 32) large
  rw [uint64Max]
  omega

theorem joined_eq (positive : 0 < frameRate) (fits : frameRate < 2 ^ 32)
    (whole : frames * sampleRate / frameRate < 2 ^ 32) :
    ((checkedMul (frames % frameRate * sampleRate % frameRate) (2 ^ 32)).bind
      fun scaled => (checkedMul (frames * sampleRate / frameRate) (2 ^ 32)).bind
        fun whole => checkedAdd whole (scaled / frameRate)) =
      some (min uint64Max (frames * sampleRate * 2 ^ 32 / frameRate)) := by
  have fraction := Nat.mod_lt (frames % frameRate * sampleRate) positive
  have part : frames % frameRate * sampleRate % frameRate * 2 ^ 32 / frameRate
      < 2 ^ 32 :=
    Nat.div_lt_of_lt_mul (Nat.mul_lt_mul_of_pos_right fraction (Nat.two_pow_pos 32))
  have joined : frames * sampleRate * 2 ^ 32 / frameRate =
      frames * sampleRate / frameRate * 2 ^ 32 +
        frames % frameRate * sampleRate % frameRate * 2 ^ 32 / frameRate := by
    rw [mul_div_split (frames * sampleRate) _ _ positive, mul_mod_split frames]
  have sum : frames * sampleRate / frameRate * 2 ^ 32 +
      frames % frameRate * sampleRate % frameRate * 2 ^ 32 / frameRate ≤
        uint64Max := by
    rw [uint64Max]
    omega
  rw [checkedMul_eq (word_mul_le (fraction.trans fits) (Nat.le_refl _)),
    checkedMul_eq (word_mul_le whole (Nat.le_refl _)), joined,
    Nat.min_eq_right sum, Option.bind_some, Option.bind_some, checkedAdd_eq sum]

theorem framesToSamplesFp_eq (frames frameRate sampleRate : Nat)
    (ratePositive : 0 < frameRate) (rateFits : frameRate < 2 ^ 32)
    (samplesPositive : 0 < sampleRate) (samplesFit : sampleRate < 2 ^ 32) :
    framesToSamplesFp frames frameRate sampleRate =
      some (min uint64Max (frames * sampleRate * 2 ^ 32 / frameRate)) := by
  have remainder := Nat.mod_lt frames ratePositive
  have product : frames % frameRate * sampleRate ≤ uint64Max :=
    word_mul_le (by omega) (by omega)
  have fraction := Nat.mod_lt (frames % frameRate * sampleRate) ratePositive
  have total := mul_div_split frames sampleRate frameRate ratePositive
  rw [framesToSamplesFp, if_neg (by omega)]
  split_ifs with huge
  · have overflow := (Nat.div_lt_iff_lt_mul samplesPositive).mp huge
    have large : 2 ^ 32 ≤ frames * sampleRate / frameRate := by
      rw [total]
      refine Nat.le_trans ?_ (Nat.le_add_right _ _)
      rw [uint64Max] at overflow
      omega
    rw [uint64Max_le_exact ratePositive large]
  rw [checkedMul_eq ((Nat.le_div_iff_mul_le samplesPositive).mp (by omega)),
    checkedMul_eq product]
  simp only [Option.bind_eq_bind, Option.bind_some]
  split_ifs with full
  · have large : 2 ^ 32 ≤ frames * sampleRate / frameRate := by
      rw [uint64Max] at full
      omega
    rw [uint64Max_le_exact ratePositive large]
  have room : frames / frameRate * sampleRate +
      frames % frameRate * sampleRate / frameRate ≤ uint64Max := by
    have fits := (Nat.le_div_iff_mul_le samplesPositive).mp
      (Nat.le_of_not_lt huge)
    omega
  rw [checkedAdd_eq room, ← total, Option.bind_some]
  split_ifs with saturated
  · rw [uint64Max_le_exact ratePositive
      (by rw [uint64Max, clockFractionOne] at saturated; omega)]
  have whole : frames * sampleRate / frameRate < 2 ^ 32 := by
    rw [uint64Max, clockFractionOne] at saturated
    omega
  rw [clockFractionOne]
  exact joined_eq ratePositive rateFits whole

end Conversion

/-! ## The device clock -/

/-- `client_audio_device_playhead`; a count below the buffer presents nothing. -/
def devicePlayhead (startPts submittedEndPts mixedSamplesFp
    deviceBufferSamples : Nat) : Nat :=
  startPts + min (mixedSamplesFp / clockFractionOne - deviceBufferSamples)
    (submittedEndPts - startPts)

def devicePlayheadQueued (startPts submittedEndPts mixedSamplesFp
    deviceBufferSamples streamQueuedSamples : Nat) : Nat :=
  let available := submittedEndPts - startPts
  let queued := min available streamQueuedSamples
  let mixedLimit := available - queued
  min
    (devicePlayhead startPts submittedEndPts mixedSamplesFp deviceBufferSamples)
    (startPts + (mixedLimit - deviceBufferSamples))

structure DeviceClock where
  active : Bool
  mixedSamplesFp : Nat
  bufferSamples : Nat
  limitSamples : Nat
  starved : Bool
  deriving DecidableEq, Repr

structure Postmix where
  channels : Nat
  freq : Nat
  buflen : Nat
  deriving DecidableEq, Repr

def Postmix.mixedSamplesFp (postmix : Postmix) (sampleRate : Nat) : Nat :=
  (framesToSamplesFp (postmix.buflen / (4 * postmix.channels)) postmix.freq
    sampleRate).getD 0

/-- `audio_postmix_callback`; the count is an atomic 64-bit word. -/
def DeviceClock.postmix (clock : DeviceClock) (sampleRate : Nat)
    (postmix : Postmix) : DeviceClock :=
  if postmix.channels = 0 ∨ postmix.freq = 0 ∨ postmix.buflen = 0 ∨
      !clock.active then clock
  else
    let mixed := postmix.mixedSamplesFp sampleRate
    let total := (clock.mixedSamplesFp + mixed) % 2 ^ 64
    let buffer := mixed / clockFractionOne
    { clock with
      bufferSamples := buffer
      mixedSamplesFp := total
      starved := clock.starved ||
        (clock.limitSamples != 0 &&
          total / clockFractionOne ≥ clock.limitSamples + buffer) }

/-! ## Runs of one playback -/

/-- The media handed to the stream, what the stream still holds, and the clock
of the device. -/
structure AudioOutput where
  startPts : Nat
  submittedEndPts : Nat
  queuedSamples : Nat
  clock : DeviceClock
  deriving DecidableEq, Repr

inductive OutputEvent where
  | callback (postmix : Postmix)
  | drain (samples : Nat)
  | submit (samples : Nat)
  deriving DecidableEq, Repr

namespace AudioOutput

def started (startPts bufferSamples : Nat) : AudioOutput :=
  ⟨startPts, startPts, 0, ⟨true, 0, bufferSamples, 0, false⟩⟩

def playhead (output : AudioOutput) : Nat :=
  devicePlayheadQueued output.startPts output.submittedEndPts
    output.clock.mixedSamplesFp output.clock.bufferSamples output.queuedSamples

/-- A range that would end past the largest time is refused. -/
def submit (output : AudioOutput) (samples : Nat) : AudioOutput :=
  if output.submittedEndPts + samples ≤ uint64Max then
    { output with
      submittedEndPts := output.submittedEndPts + samples
      queuedSamples := output.queuedSamples + samples
      clock.limitSamples := output.submittedEndPts + samples - output.startPts }
  else output

def step (sampleRate : Nat) (output : AudioOutput) :
    OutputEvent → AudioOutput
  | .callback postmix =>
    { output with clock := output.clock.postmix sampleRate postmix }
  | .drain samples =>
    { output with queuedSamples := output.queuedSamples - samples }
  | .submit samples => output.submit samples

/-- The callback reports the buffer the device already had. -/
def SteadyBuffer (sampleRate : Nat) (output : AudioOutput) : OutputEvent → Prop
  | .callback postmix =>
    (output.clock.postmix sampleRate postmix).bufferSamples =
      output.clock.bufferSamples
  | _ => True

/-- The count of mixed samples does not pass the 64-bit word. -/
def CountFits (sampleRate : Nat) (output : AudioOutput) : OutputEvent → Prop
  | .callback postmix =>
    output.clock.mixedSamplesFp + postmix.mixedSamplesFp sampleRate < 2 ^ 64
  | _ => True

instance (sampleRate : Nat) (output : AudioOutput) (event : OutputEvent) :
    Decidable (output.SteadyBuffer sampleRate event) :=
  match event with
  | .callback _ => inferInstanceAs (Decidable (_ = _))
  | .drain _ => inferInstanceAs (Decidable True)
  | .submit _ => inferInstanceAs (Decidable True)

instance (sampleRate : Nat) (output : AudioOutput) (event : OutputEvent) :
    Decidable (output.CountFits sampleRate event) :=
  match event with
  | .callback _ => inferInstanceAs (Decidable (_ < _))
  | .drain _ => inferInstanceAs (Decidable True)
  | .submit _ => inferInstanceAs (Decidable True)

structure WellFormed (output : AudioOutput) : Prop where
  ordered : output.startPts ≤ output.submittedEndPts
  queued : output.queuedSamples ≤ output.submittedEndPts - output.startPts
  fits : output.submittedEndPts ≤ uint64Max

variable {sampleRate : Nat} {output : AudioOutput} {event : OutputEvent}

theorem WellFormed.step (formed : output.WellFormed) :
    (output.step sampleRate event).WellFormed := by
  obtain ⟨ordered, queued, fits⟩ := formed
  cases event with
  | callback postmix => exact ⟨ordered, queued, fits⟩
  | drain samples =>
      exact ⟨ordered, (Nat.sub_le _ _).trans queued, fits⟩
  | submit samples =>
      change (output.submit samples).WellFormed
      rw [submit]
      split_ifs with room
      · refine ⟨?_, ?_, room⟩ <;> dsimp only <;> omega
      · exact ⟨ordered, queued, fits⟩

structure Bounded (output : AudioOutput) : Prop where
  afterStart : output.startPts ≤ output.playhead
  beforeEnd : output.playhead ≤ output.submittedEndPts
  beforeQueue :
    output.playhead ≤ output.submittedEndPts - output.queuedSamples

theorem WellFormed.bounded (formed : output.WellFormed) : output.Bounded := by
  obtain ⟨ordered, queued, -⟩ := formed
  constructor <;>
    simp only [playhead, devicePlayheadQueued, devicePlayhead] <;> omega

theorem playhead_mono_mixed {start finish buffer queued mixed later : Nat}
    (grows : mixed ≤ later) :
    devicePlayheadQueued start finish mixed buffer queued ≤
      devicePlayheadQueued start finish later buffer queued := by
  have whole := Nat.div_le_div_right (c := clockFractionOne) grows
  simp only [devicePlayheadQueued, devicePlayhead]
  omega

theorem mixed_le_postmix {postmix : Postmix}
    (fits : output.CountFits sampleRate (.callback postmix)) :
    output.clock.mixedSamplesFp ≤
      (output.clock.postmix sampleRate postmix).mixedSamplesFp := by
  rw [DeviceClock.postmix]
  split_ifs
  · exact Nat.le_refl _
  · dsimp only
    rw [Nat.mod_eq_of_lt fits]
    exact Nat.le_add_right _ _

theorem playhead_le_step (formed : output.WellFormed)
    (steady : output.SteadyBuffer sampleRate event)
    (fits : output.CountFits sampleRate event) :
    output.playhead ≤ (output.step sampleRate event).playhead := by
  obtain ⟨ordered, queued, -⟩ := formed
  cases event with
  | callback postmix =>
      change _ ≤ devicePlayheadQueued _ _
        (output.clock.postmix sampleRate postmix).mixedSamplesFp
        (output.clock.postmix sampleRate postmix).bufferSamples _
      rw [show (output.clock.postmix sampleRate postmix).bufferSamples =
        output.clock.bufferSamples from steady]
      exact playhead_mono_mixed (mixed_le_postmix fits)
  | drain samples =>
      simp only [step, playhead, devicePlayheadQueued]
      omega
  | submit samples =>
      change _ ≤ (output.submit samples).playhead
      rw [submit]
      split_ifs
      · simp only [playhead, devicePlayheadQueued, devicePlayhead]
        omega
      · exact Nat.le_refl _

/-! ## A day of playback -/

def tenMilliseconds : List OutputEvent :=
  [.submit 480, .drain 480, .callback ⟨1, 48000, 1920⟩]

def afterRounds (n : Nat) : AudioOutput :=
  ⟨0, 480 * n, 0, ⟨true, 480 * 2 ^ 32 * n % 2 ^ 64, 480, 480 * n, false⟩⟩

theorem tenMilliseconds_mixed :
    (Postmix.mk 1 48000 1920).mixedSamplesFp 48000 = 480 * 2 ^ 32 := by
  decide

theorem step_afterRounds (n : Nat) (room : 480 * (n + 1) ≤ uint64Max) :
    runFrom (step 48000) (afterRounds n) tenMilliseconds =
      afterRounds (n + 1) := by
  have total : (480 * 2 ^ 32 * n % 2 ^ 64 + 480 * 2 ^ 32) % 2 ^ 64 =
      480 * 2 ^ 32 * (n + 1) % 2 ^ 64 := by
    omega
  have buffer : 480 * 2 ^ 32 / 2 ^ 32 = 480 := by
    omega
  have behind : ¬ 480 * 2 ^ 32 * (n + 1) % 2 ^ 64 / 2 ^ 32 ≥
      480 * (n + 1) + 480 := by
    omega
  have submitted : (afterRounds n).submit 480 =
      ⟨0, 480 * (n + 1), 480,
        ⟨true, 480 * 2 ^ 32 * n % 2 ^ 64, 480, 480 * (n + 1), false⟩⟩ := by
    rw [submit, if_pos (by rw [afterRounds]; omega)]
    rfl
  simp only [tenMilliseconds, runFrom_cons, runFrom_nil, step, submitted,
    DeviceClock.postmix, tenMilliseconds_mixed, total, clockFractionOne, buffer,
    behind]
  rfl

theorem runFrom_rounds (n : Nat) (room : 480 * n ≤ uint64Max) :
    runFrom (step 48000) (started 0 480)
      (List.replicate n tenMilliseconds).flatten = afterRounds n := by
  induction n with
  | zero => rfl
  | succ n ih =>
      rw [List.replicate_succ', List.flatten_append, runFrom_append,
        ih (by omega), List.flatten_singleton]
      exact step_afterRounds n room

theorem steady_callback {output : AudioOutput}
    (same : output.clock.bufferSamples = 480) :
    output.SteadyBuffer 48000 (.callback ⟨1, 48000, 1920⟩) := by
  rw [SteadyBuffer, DeviceClock.postmix]
  split
  · rfl
  · dsimp only
    rw [tenMilliseconds_mixed, same, clockFractionOne]
    omega

theorem submit_bufferSamples (output : AudioOutput) (samples : Nat) :
    (output.submit samples).clock.bufferSamples =
      output.clock.bufferSamples := by
  rw [submit]
  split_ifs <;> rfl

theorem steady_tenMilliseconds {output : AudioOutput}
    (same : output.clock.bufferSamples = 480) :
    Along (step 48000) (SteadyBuffer 48000) output tenMilliseconds :=
  ⟨trivial, trivial,
    steady_callback ((submit_bufferSamples output 480).trans same), trivial⟩

theorem steady_rounds (n : Nat) (room : 480 * n ≤ uint64Max) :
    Along (step 48000) (SteadyBuffer 48000) (started 0 480)
      (List.replicate n tenMilliseconds).flatten := by
  induction n with
  | zero => trivial
  | succ n ih =>
      rw [List.replicate_succ', List.flatten_append, along_append,
        runFrom_rounds n (by omega), List.flatten_singleton]
      exact ⟨ih (by omega), steady_tenMilliseconds rfl⟩

/-- After a day the count of mixed samples starts again, and the playhead falls
back to the start. -/
theorem playhead_falls_after_a_day :
    ∃ day : List OutputEvent,
      Along (step 48000) (SteadyBuffer 48000) (started 0 480)
          (day ++ tenMilliseconds) ∧
        (runFrom (step 48000) (started 0 480) day).playhead = 4294966560 ∧
        (runFrom (step 48000) (started 0 480)
          (day ++ tenMilliseconds)).playhead = 0 := by
  refine ⟨(List.replicate 8947848 tenMilliseconds).flatten, ?_, ?_, ?_⟩
  · have steady := steady_rounds 8947849 (by decide)
    rw [List.replicate_succ', List.flatten_append,
      List.flatten_singleton] at steady
    exact steady
  · rw [runFrom_rounds _ (by decide)]
    rfl
  · rw [runFrom_append, runFrom_rounds _ (by decide),
      step_afterRounds _ (by decide)]
    rfl

theorem audioClock_correct (sampleRate startPts bufferSamples : Nat)
    (fits : startPts ≤ uint64Max) :
    (∀ frames frameRate outputRate, frames < 2 ^ 64 → 0 < frameRate →
      frameRate < 2 ^ 32 → 0 < outputRate → outputRate < 2 ^ 32 →
        framesToSamplesFp frames frameRate outputRate =
          some (min uint64Max (frames * outputRate * 2 ^ 32 / frameRate))) ∧
    (∀ events, (runFrom (step sampleRate) (started startPts bufferSamples)
      events).Bounded) ∧
    ∀ earlier later, Along (step sampleRate)
        (fun output event => output.SteadyBuffer sampleRate event ∧
          output.CountFits sampleRate event)
        (started startPts bufferSamples) (earlier ++ later) →
      (runFrom (step sampleRate) (started startPts bufferSamples)
          earlier).playhead ≤
        (runFrom (step sampleRate) (started startPts bufferSamples)
          (earlier ++ later)).playhead := by
  have formed : (started startPts bufferSamples).WellFormed :=
    ⟨Nat.le_refl _, Nat.zero_le _, fits⟩
  have reached : ∀ events, (runFrom (step sampleRate)
      (started startPts bufferSamples) events).WellFormed :=
    invariant_runFrom_of_step (fun _ _ formed => formed.step) formed
  refine ⟨fun frames frameRate outputRate _ => framesToSamplesFp_eq _ _ _,
    fun events => (reached events).bounded, fun earlier later along => ?_⟩
  rw [runFrom_append]
  exact related_runFrom (fun output other => output.playhead ≤ other.playhead)
    (fun _ => Nat.le_refl _) (fun _ _ _ => Nat.le_trans)
    (fun _ _ formed _ => WellFormed.step formed)
    (fun _ _ formed permitted =>
      playhead_le_step formed permitted.1 permitted.2)
    (reached earlier) (along_append.mp along).2

/-- One and then two rounds of ten milliseconds. -/
theorem audioClock_correct_rounds :
    framesToSamplesFp 441 44100 48000 = some (480 * 2 ^ 32) ∧
      (runFrom (step 48000) (started 7 480) tenMilliseconds).Bounded ∧
        (runFrom (step 48000) (started 7 480) tenMilliseconds).playhead ≤
          (runFrom (step 48000) (started 7 480)
            (tenMilliseconds ++ tenMilliseconds)).playhead := by
  obtain ⟨exactly, bounded, grows⟩ := audioClock_correct 48000 7 480 (by decide)
  refine ⟨?_, bounded _, grows _ _ ?_⟩
  · exact exactly 441 44100 48000 (by decide) (by decide) (by decide)
      (by decide) (by decide)
  · decide

end AudioOutput

end WayDisplay.Client
