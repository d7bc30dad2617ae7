import WayDisplay.Client.Reassembly.Flush
import WayDisplay.Client.Repairs.Queueing

/-!
Requests that fail, and requests that are repeated.

A message that the control connection does not take ends the session: the flush
has already taken its tiles off the queue, and the reader makes no further
request.  While requests go through, the tables of the last request hold a
repetition off, unless an older generation is asked for in between.
-/

namespace WayDisplay.Client

open Common Foundation

namespace RepairTracking

section

variable {received : Generations} {totalTiles : Nat} {input : FlushInput}

structure Spent (now : Nat) (before after : RepairTracking)
    (entries : List (Nat × Nat)) : Prop where
  asked : ∀ entry ∈ entries, entry.2 ≠ 0 ∧
    before.retxQueuedGeneration entry.1 = entry.2 ∧
    after.retxQueuedGeneration entry.1 = 0 ∧
    after.retxLastRequestedGeneration entry.1 = entry.2 ∧
    after.retxLastRequestNs entry.1 = now
  others : ∀ tileId, (∀ entry ∈ entries, entry.1 ≠ tileId) →
    after.retxLastRequestedGeneration tileId =
        before.retxLastRequestedGeneration tileId ∧
      after.retxLastRequestNs tileId = before.retxLastRequestNs tileId
  lowered : ∀ tileId, after.retxQueuedGeneration tileId = 0 ∨
    after.retxQueuedGeneration tileId = before.retxQueuedGeneration tileId

theorem Spent.refl (now : Nat) (repairs : RepairTracking) :
    Spent now repairs repairs [] :=
  ⟨nofun, fun _ _ => ⟨rfl, rfl⟩, fun _ => .inr rfl⟩

theorem Spent.dequeued {now tileId : Nat} {before after : RepairTracking}
    {entries : List (Nat × Nat)} (spent : Spent now before after entries) :
    Spent now before (after.dequeued tileId) entries := by
  refine ⟨?_, spent.others, ?_⟩
  · intro entry member
    obtain ⟨nonzero, same, zero, last, time⟩ := spent.asked entry member
    refine ⟨nonzero, same, ?_, last, time⟩
    dsimp only [RepairTracking.dequeued]
    rw [Function.update_apply]
    split_ifs
    · rfl
    · exact zero
  · intro other
    dsimp only [RepairTracking.dequeued]
    rw [Function.update_apply]
    split_ifs
    · exact .inl rfl
    · exact spent.lowered other

theorem Spent.requested {tileId : Nat} {before after : RepairTracking}
    {entries : List (Nat × Nat)} (spent : Spent input.now before after entries)
    (due : after.Due received totalTiles input tileId) :
    Spent input.now before (after.requested input.now tileId)
      (entries ++ [(tileId, after.retxQueuedGeneration tileId)]) := by
  have nonzero := due.2.1
  -- A tile that was asked for before has nothing queued any more.
  have fresh : ∀ entry ∈ entries, entry.1 ≠ tileId := by
    rintro entry member rfl
    exact nonzero (spent.asked entry member).2.2.1
  refine ⟨?_, ?_, spent.dequeued.lowered⟩
  · intro entry member
    dsimp only [RepairTracking.requested, RepairTracking.dequeued]
    rcases List.mem_append.mp member with earlier | new
    · have distinct := fresh entry earlier
      rw [Function.update_of_ne distinct, Function.update_of_ne distinct,
        Function.update_of_ne distinct]
      exact spent.asked entry earlier
    · rw [List.mem_singleton.mp new]
      refine ⟨nonzero, ?_, ?_, ?_, ?_⟩
      · exact ((spent.lowered tileId).resolve_left nonzero).symm
      · exact Function.update_self ..
      · exact Function.update_self ..
      · exact Function.update_self ..
  · intro other absent
    have distinct : other ≠ tileId := fun same =>
      absent _ (List.mem_append_right _ (List.mem_singleton_self _)) same.symm
    dsimp only [RepairTracking.requested]
    rw [Function.update_of_ne distinct, Function.update_of_ne distinct]
    exact spent.others other fun entry member =>
      absent entry (List.mem_append_left _ member)

theorem flush_spent (received : Generations) (totalTiles : Nat)
    (input : FlushInput) (repairs : RepairTracking) (pending : Nat) :
    Spent input.now repairs
      (repairs.flush received totalTiles input pending []).1
      (repairs.flush received totalTiles input pending []).2 := by
  apply flush_invariant received totalTiles input
    (P := Spent input.now repairs)
  case initially => exact .refl input.now repairs
  case tileStep =>
    intro after entries tileId rest outcome _ flushed spent
    have shorter : Spent input.now repairs { after with retxQueue := rest }
        entries := ⟨spent.asked, spent.others, spent.lowered⟩
    cases flushed with
    | passed outside => rwa [Option.toList, List.append_nil]
    | dropped answered =>
        rw [Option.toList, List.append_nil]
        exact shorter.dequeued
    | putBack waiting waits =>
        rw [Option.toList, List.append_nil]
        exact ⟨shorter.asked, shorter.others, shorter.lowered⟩
    | asked due => exact shorter.requested due

end

end RepairTracking

/-! ## A message that is refused -/

def RepairEvent.connects : RepairEvent → Bool
  | .connect _ _ => true
  | _ => false

namespace RepairState

def EndedWith (sent : List RepairRequest) (s : RepairState) : Prop :=
  s.reader = .ended ∧ s.trace.sent = sent

theorem EndedWith.step {s : RepairState} {sent : List RepairRequest}
    (ended : s.EndedWith sent) {event : RepairEvent}
    (offline : event.connects = false) : (s.step event).EndedWith sent := by
  obtain ⟨ended, same⟩ := ended
  have acts := s.step_acts event
  generalize s.step event = t at acts ⊢
  -- What the reader does needs a reader that is at work.
  cases acts with
  | ignored => exact ⟨ended, same⟩
  | tick elapsed => exact ⟨ended, same⟩
  | offerSummary epoch entries idle => rw [ended] at idle; cases idle
  | noteSummary link noting => rw [ended] at noting; cases noting
  | promote link idle => rw [ended] at idle; cases idle
  | collect link idle => rw [ended] at idle; cases idle
  | send queued sending => rw [ended] at sending; cases sending
  | completeTiles tileIds generation idle => rw [ended] at idle; cases idle
  | partialTimeout tileId generation idle => rw [ended] at idle; cases idle
  | markInflight tileId generation => exact ⟨ended, same⟩
  | clearInflight tileId generation => exact ⟨ended, same⟩
  | acceptEpoch epoch owner =>
      unfold acceptContentEpoch
      split
      · exact ⟨ended, same⟩
      · exact ⟨ended, same⟩
  | applyConfig totalTiles => exact ⟨ended, same⟩
  | resetEpoch epoch =>
      unfold resetContentEpoch
      split_ifs
      · exact ⟨ended, same⟩
      · exact ⟨ended, same⟩
  | connect totalTiles contentEpoch => cases offline

theorem EndedWith.run {s : RepairState} {sent : List RepairRequest}
    (ended : s.EndedWith sent) {events : List RepairEvent}
    (offline : ∀ event ∈ events, event.connects = false) :
    (repairRun s events).EndedWith sent :=
  invariant_runFrom (fun _ _ ended offline => ended.step offline) ended
    (along_of_forall (fun event => event.connects = false) offline)

theorem connect_repairs (s : RepairState) (totalTiles contentEpoch : Nat) :
    (s.step (.connect totalTiles contentEpoch)).repairs = .initial := by
  dsimp only [step, withReader]
  unfold resetContentEpoch
  split_ifs
  · rfl
  · rfl

theorem refused_run {s : RepairState} {link : LinkTimers}
    (idle : s.reader = .idle) (collected : (s.flushed link).2 ≠ []) :
    repairRun s [.collect link, .send false] =
      (s.collectRequests link).sendRequest (s.flushed link).2 false := by
  have sending : (s.collectRequests link).reader =
      .sending (s.flushed link).2 := by
    unfold collectRequests
    dsimp only
    rw [if_neg (by rwa [List.isEmpty_iff])]
  dsimp only [repairRun, runFrom_cons, runFrom_nil, step]
  rw [idle]
  dsimp only
  rw [sending]

/-- A message that cannot be queued ends the reader.  Its tiles are no longer
queued and count as requested, the last requests of all others are as they were,
and nothing is sent any more before a connection starts with new tables. -/
theorem refused_request_ends_reader (s : RepairState) (link : LinkTimers)
    (idle : s.reader = .idle) (collected : (s.flushed link).2 ≠ []) :
    let t := repairRun s [.collect link, .send false]
    t.reader = .ended ∧
      (∀ entry ∈ (s.flushed link).2,
        t.repairs.retxQueuedGeneration entry.1 = 0 ∧
          t.repairs.retxLastRequestedGeneration entry.1 = entry.2 ∧
          t.repairs.retxLastRequestNs entry.1 = s.clock.ns) ∧
      (∀ tileId, (∀ entry ∈ (s.flushed link).2, entry.1 ≠ tileId) →
        t.repairs.retxLastRequestedGeneration tileId =
            s.repairs.retxLastRequestedGeneration tileId ∧
          t.repairs.retxLastRequestNs tileId =
            s.repairs.retxLastRequestNs tileId) ∧
      ∀ events : List RepairEvent,
        (∀ event ∈ events, event.connects = false) →
          (repairRun t events).trace.sent = s.trace.sent ∧
            ∀ totalTiles contentEpoch,
              (repairRun t (events ++
                [.connect totalTiles contentEpoch])).repairs = .initial := by
  intro t
  have reached : t =
      (s.collectRequests link).sendRequest (s.flushed link).2 false :=
    refused_run idle collected
  have spent : RepairTracking.Spent s.clock.ns s.repairs
      (s.flushed link).1 (s.flushed link).2 :=
    RepairTracking.flush_spent s.received s.totalTiles (s.flushInput link)
      s.repairs s.repairs.retxQueue.length
  have ended : t.EndedWith s.trace.sent := by
    rw [reached]
    exact ⟨rfl, rfl⟩
  refine ⟨ended.1, ?_, ?_, ?_⟩
  · rw [reached]
    intro entry member
    exact (spent.asked entry member).2.2
  · rw [reached]
    exact spent.others
  · intro events offline
    refine ⟨(ended.run offline).2, ?_⟩
    intro totalTiles contentEpoch
    rw [repairRun, runFrom_append]
    exact connect_repairs _ totalTiles contentEpoch

/-- A request for tile 2 has gone through; the message for tiles 0 and 1 is
refused, and what comes after it asks for nothing more. -/
theorem refused_request_ends_reader_twoTiles :
    let s := repairRun (init 8 1 oneSecond)
      [.partialTimeout 2 4, .collect shortTimers, .send true,
        .partialTimeout 0 5, .partialTimeout 1 3]
    let t := repairRun s [.collect shortTimers, .send false]
    (s.flushed shortTimers).2 = [(0, 5), (1, 3)] ∧ t.reader = .ended ∧
      t.repairs.retxLastRequestedGeneration 1 = 3 ∧
      t.repairs.retxLastRequestedGeneration 2 =
        s.repairs.retxLastRequestedGeneration 2 ∧
      s.trace.sent.length = 1 ∧
      (repairRun t [.partialTimeout 3 9, .collect shortTimers,
        .send true]).trace.sent = s.trace.sent := by
  intro s t
  have flushed : (s.flushed shortTimers).2 = [(0, 5), (1, 3)] := by
    decide +kernel
  obtain ⟨ended, asked, others, quiet⟩ :=
    refused_request_ends_reader s shortTimers rfl (by simp [flushed])
  exact ⟨flushed, ended, (asked (1, 3) (by simp [flushed])).2.1,
    (others 2 (by simp [flushed])).1, by decide +kernel,
    (quiet _ (by decide)).1⟩

/-- The tile of a refused message is not queued again, and counts as requested. -/
theorem refused_request_forgets_tile :
    let before := repairRun (init 8 1 oneSecond)
      [.partialTimeout 0 5]
    let after := repairRun before [.collect shortTimers, .send false]
    (0, 5) ∈ (before.flushed shortTimers).2 ∧
      0 ∉ after.repairs.retxQueue ∧
      after.repairs.retxQueuedGeneration 0 = 0 ∧
      before.repairs.retxLastRequestedGeneration 0 = 0 ∧
      after.repairs.retxLastRequestedGeneration 0 = 5 ∧
      before.repairs.retxLastRequestNs 0 = 0 ∧
      after.repairs.retxLastRequestNs 0 = 1000000000 := by
  decide +kernel

end RepairState

/-! ## Requests that are repeated -/

/-- Two requests for one tile within the interval of the second ask for more and
more. -/
def Spaced (asked : List AskedRepair) : Prop :=
  asked.Pairwise fun first second =>
    first.tileId = second.tileId →
      second.now - first.now < second.intervalNs →
        first.generation < second.generation

instance (asked : List AskedRepair) : Decidable (Spaced asked) :=
  inferInstanceAs (Decidable (List.Pairwise _ _))

def FlushInput.asks (input : FlushInput) (entry : Nat × Nat) : AskedRepair :=
  ⟨entry.1, entry.2, input.now, input.requestIntervalNs⟩

namespace RepairTracking

/-- What was asked for has arrived, or the tables of the last request still hold
its repetition off. -/
def Recorded (received : Generations) (now : Nat) (repairs : RepairTracking)
    (asked : AskedRepair) : Prop :=
  asked.generation ≤ received asked.tileId ∨
    asked.generation ≤ repairs.retxLastRequestedGeneration asked.tileId ∧
      repairs.retxLastRequestNs asked.tileId ≠ 0 ∧
      asked.now ≤ repairs.retxLastRequestNs asked.tileId ∧
      repairs.retxLastRequestNs asked.tileId ≤ now

section

variable {received : Generations} {totalTiles : Nat} {input : FlushInput}
  {repairs : RepairTracking} {asked : AskedRepair}

theorem Recorded.later {now now' : Nat}
    (recorded : repairs.Recorded received now asked) (later : now ≤ now') :
    repairs.Recorded received now' asked :=
  recorded.imp_right fun ⟨covers, set, after, before⟩ =>
    ⟨covers, set, after, before.trans later⟩

theorem Recorded.clearCompleted {now : Nat}
    (recorded : repairs.Recorded received now asked) (tileId : Nat) :
    (clearCompleted received repairs tileId).Recorded received now asked := by
  rcases recorded with arrived | ⟨covers, held⟩
  · exact .inl arrived
  · unfold Recorded
    dsimp only [RepairTracking.clearCompleted]
    split_ifs with answered
    · by_cases own : asked.tileId = tileId
      · -- The record is dropped because what it covers has arrived.
        rw [Bool.and_eq_true, decide_eq_true_eq, decide_eq_true_eq] at answered
        rw [own] at covers ⊢
        exact .inl (covers.trans answered.2)
      · rw [Function.update_of_ne own, Function.update_of_ne own]
        exact .inr ⟨covers, held⟩
    · exact .inr ⟨covers, held⟩

theorem Recorded.clearAllCompleted {now : Nat}
    (recorded : repairs.Recorded received now asked) (tileIds : List Nat) :
    (tileIds.foldl (RepairTracking.clearCompleted received) repairs).Recorded
      received now asked := by
  induction tileIds generalizing repairs with
  | nil => exact recorded
  | cons tileId rest ih => exact ih (recorded.clearCompleted tileId)

/-- A tile that is due was last asked for longer ago than the interval, or for
less. -/
theorem Recorded.spaced {tileId : Nat}
    (recorded : repairs.Recorded received input.now asked)
    (due : repairs.Due received totalTiles input tileId)
    (fits : input.now < 2 ^ 64) (same : asked.tileId = tileId)
    (close : input.now - asked.now < input.requestIntervalNs) :
    asked.generation < repairs.retxQueuedGeneration tileId := by
  subst same
  by_contra repeated
  obtain ⟨_, _, missing, _, free⟩ := due
  rcases recorded with arrived | ⟨covers, set, after, before⟩
  · omega
  · have elapsed : (input.now + 2 ^ 64 -
        repairs.retxLastRequestNs asked.tileId) % 2 ^ 64 =
          input.now - repairs.retxLastRequestNs asked.tileId := by
      omega
    have held : heldOff repairs.retxLastRequestedGeneration
        repairs.retxLastRequestNs asked.tileId
        (repairs.retxQueuedGeneration asked.tileId) input.now
        input.requestIntervalNs = true := by
      unfold heldOff
      rw [elapsed]
      simp only [Bool.and_eq_true, decide_eq_true_eq]
      exact ⟨⟨by omega, set⟩, by omega⟩
    rw [held] at free
    cases free

theorem Recorded.requested {tileId : Nat}
    (recorded : repairs.Recorded received input.now asked)
    (running : 0 < input.now) (past : asked.now ≤ input.now)
    (raises : repairs.retxLastRequestedGeneration tileId ≤
      repairs.retxQueuedGeneration tileId) :
    (repairs.requested input.now tileId).Recorded received input.now asked := by
  rcases recorded with arrived | ⟨covers, held⟩
  · exact .inl arrived
  · unfold Recorded
    dsimp only [RepairTracking.requested]
    by_cases own : asked.tileId = tileId
    · rw [own] at covers ⊢
      rw [Function.update_self, Function.update_self]
      exact .inr ⟨covers.trans raises, Nat.ne_of_gt running, past, le_rfl⟩
    · rw [Function.update_of_ne own, Function.update_of_ne own]
      exact .inr ⟨covers, held⟩

structure History (received : Generations) (now : Nat)
    (repairs : RepairTracking) (asked : List AskedRepair) : Prop where
  spaced : Spaced asked
  past : ∀ a ∈ asked, a.now ≤ now
  recorded : ∀ a ∈ asked, repairs.Recorded received now a

theorem history_nil (received : Generations) (now : Nat)
    (repairs : RepairTracking) : History received now repairs [] :=
  ⟨.nil, nofun, nofun⟩

theorem History.sameRequests {now : Nat} {repairs' : RepairTracking}
    {asked : List AskedRepair} (history : History received now repairs asked)
    (generations : repairs'.retxLastRequestedGeneration =
      repairs.retxLastRequestedGeneration)
    (times : repairs'.retxLastRequestNs = repairs.retxLastRequestNs) :
    History received now repairs' asked := by
  refine ⟨history.spaced, history.past, fun a member => ?_⟩
  unfold Recorded
  rw [generations, times]
  exact history.recorded a member

theorem History.requested {tileId : Nat} {asked : List AskedRepair}
    (history : History received input.now repairs asked)
    (due : repairs.Due received totalTiles input tileId)
    (running : 0 < input.now) (fits : input.now < 2 ^ 64)
    (raises : repairs.retxLastRequestedGeneration tileId ≤
      repairs.retxQueuedGeneration tileId) :
    History received input.now (repairs.requested input.now tileId)
      (asked ++
        [input.asks (tileId, repairs.retxQueuedGeneration tileId)]) := by
  have generation : (repairs.requested input.now
      tileId).retxLastRequestedGeneration tileId =
        repairs.retxQueuedGeneration tileId := Function.update_self ..
  have time : (repairs.requested input.now tileId).retxLastRequestNs tileId =
      input.now := Function.update_self ..
  refine ⟨?_, ?_, ?_⟩
  · refine List.pairwise_append.mpr
      ⟨history.spaced, List.pairwise_singleton _ _, ?_⟩
    intro first member second new same close
    rw [List.mem_singleton.mp new] at same close ⊢
    exact (history.recorded first member).spaced due fits same close
  · intro a member
    rcases List.mem_append.mp member with earlier | new
    · exact history.past a earlier
    · rw [List.mem_singleton.mp new]
      exact le_rfl
  · intro a member
    rcases List.mem_append.mp member with earlier | new
    · exact (history.recorded a earlier).requested running
        (history.past a earlier) raises
    · rw [List.mem_singleton.mp new]
      exact .inr ⟨generation.ge, time.trans_ne (Nat.ne_of_gt running),
        time.ge, time.le⟩

/-- No listed tile that is due is asked for less than before. -/
def Raises (received : Generations) (totalTiles : Nat) (input : FlushInput)
    (repairs : RepairTracking) : Prop :=
  ∀ tileId ∈ repairs.retxQueue, repairs.Due received totalTiles input tileId →
    repairs.retxLastRequestedGeneration tileId ≤
      repairs.retxQueuedGeneration tileId

instance (received : Generations) (totalTiles : Nat) (input : FlushInput)
    (repairs : RepairTracking) :
    Decidable (repairs.Raises received totalTiles input) :=
  inferInstanceAs (Decidable (∀ _ ∈ _, _))

theorem due_of_dequeued {tileId other : Nat}
    (due : (repairs.dequeued tileId).Due received totalTiles input other) :
    other ≠ tileId ∧ repairs.Due received totalTiles input other := by
  have distinct : other ≠ tileId := by
    rintro rfl
    exact due.2.1 (Function.update_self ..)
  unfold Due dequeued at due
  dsimp only at due
  rw [Function.update_of_ne distinct] at due
  exact ⟨distinct, due⟩

theorem due_of_requested {tileId other : Nat}
    (due : (repairs.requested input.now tileId).Due received totalTiles input
      other) :
    other ≠ tileId ∧ repairs.Due received totalTiles input other := by
  have distinct : other ≠ tileId := by
    rintro rfl
    exact due.2.1 (Function.update_self ..)
  unfold Due requested dequeued at due
  dsimp only [heldOff] at due
  rw [Function.update_of_ne distinct, Function.update_of_ne distinct,
    Function.update_of_ne distinct] at due
  exact ⟨distinct, due⟩

theorem Raises.dequeued (raises : repairs.Raises received totalTiles input)
    (tileId : Nat) :
    (repairs.dequeued tileId).Raises received totalTiles input := by
  intro other listed due
  obtain ⟨distinct, before⟩ := due_of_dequeued due
  dsimp only [RepairTracking.dequeued]
  rw [Function.update_of_ne distinct]
  exact raises other listed before

theorem Raises.requested (raises : repairs.Raises received totalTiles input)
    (tileId : Nat) :
    (repairs.requested input.now tileId).Raises received totalTiles input := by
  intro other listed due
  obtain ⟨distinct, before⟩ := due_of_requested due
  dsimp only [RepairTracking.requested, RepairTracking.dequeued]
  rw [Function.update_of_ne distinct, Function.update_of_ne distinct]
  exact raises other listed before

theorem History.flush {asked : List AskedRepair}
    (history : History received input.now repairs asked)
    (running : 0 < input.now) (fits : input.now < 2 ^ 64)
    (raises : repairs.Raises received totalTiles input) (pending : Nat) :
    History received input.now
      (repairs.flush received totalTiles input pending []).1
      (asked ++ (repairs.flush received totalTiles input pending []).2.map
        input.asks) := by
  apply And.left
  apply flush_invariant received totalTiles input
    (P := fun repairs entries =>
      History received input.now repairs (asked ++ entries.map input.asks) ∧
        repairs.Raises received totalTiles input)
  case initially =>
    rw [List.map_nil, List.append_nil]
    exact ⟨history, raises⟩
  case tileStep =>
    rintro repairs entries tileId rest outcome first flushed ⟨history, raises⟩
    have shorter : RepairTracking.Raises received totalTiles input
        { repairs with retxQueue := rest } :=
      fun other listed due => raises other (first ▸ .tail _ listed) due
    have history : History received input.now
        { repairs with retxQueue := rest } (asked ++ entries.map input.asks) :=
      history.sameRequests rfl rfl
    cases flushed with
    | passed outside =>
        rw [Option.toList, List.append_nil]
        exact ⟨history, shorter⟩
    | dropped answered =>
        rw [Option.toList, List.append_nil]
        exact ⟨history.sameRequests rfl rfl, shorter.dequeued tileId⟩
    | putBack waiting waits =>
        rw [Option.toList, List.append_nil]
        refine ⟨history.sameRequests rfl rfl, ?_⟩
        intro other listed due
        rcases List.mem_append.mp listed with before | added
        · exact shorter other before due
        · rw [List.mem_singleton.mp added] at due
          exact absurd due waits
    | asked due =>
        rw [Option.toList, List.map_append, ← List.append_assoc]
        exact ⟨history.requested due running fits
          (raises tileId (first ▸ .head _) due), shorter.requested tileId⟩

end

end RepairTracking

/-! ## Whole runs -/

def ReaderPhase.isIdle : ReaderPhase → Bool
  | .idle => true
  | _ => false

namespace RepairState

def Remembers (s : RepairState) : Prop :=
  RepairTracking.History s.received s.clock.ns s.repairs s.trace.asked

/-- A flush that the reader begins lowers no record of a last request. -/
def RaisesRecord (s : RepairState) : RepairEvent → Prop
  | .collect link => s.reader.isIdle = true →
      s.repairs.Raises s.received s.totalTiles (s.flushInput link)
  | _ => True

theorem queueing_requests {s t : RepairState} (queueing : s.Queueing t) :
    t.received = s.received ∧ t.clock = s.clock ∧
      t.trace.asked = s.trace.asked ∧
      t.repairs.retxLastRequestedGeneration =
        s.repairs.retxLastRequestedGeneration ∧
      t.repairs.retxLastRequestNs = s.repairs.retxLastRequestNs := by
  induction queueing with
  | refl => exact ⟨rfl, rfl, rfl, rfl, rfl⟩
  | timers earlier pending notBeforeNs ih => exact ih
  | inflight earlier generations times ih => exact ih
  | queue earlier tileId generation ih => exact ih

section

variable {s t : RepairState}

theorem Remembers.queueing (remembers : s.Remembers)
    (queueing : s.Queueing t) : t.Remembers := by
  obtain ⟨received, clock, asked, generations, times⟩ :=
    queueing_requests queueing
  unfold Remembers
  rw [received, clock, asked]
  exact RepairTracking.History.sameRequests remembers generations times

theorem remembers_of_forgotten (forgotten : s.trace.asked = []) :
    s.Remembers := by
  unfold Remembers
  rw [forgotten]
  exact RepairTracking.history_nil _ _ _

theorem Remembers.acceptContentEpoch (remembers : s.Remembers) (epoch : Nat)
    (owner : ContentOwner) :
    (s.acceptContentEpoch epoch owner).Remembers := by
  unfold RepairState.acceptContentEpoch
  split
  · exact remembers_of_forgotten rfl
  · exact remembers

theorem Remembers.resetContentEpoch (remembers : s.Remembers) (epoch : Nat)
    (owner : ContentOwner) :
    (s.resetContentEpoch epoch owner).Remembers := by
  unfold RepairState.resetContentEpoch
  split_ifs
  · exact remembers
  · exact remembers_of_forgotten rfl

theorem Remembers.tick (remembers : s.Remembers) (elapsed : Nat) :
    RepairState.Remembers { s with clock := s.clock.advance elapsed } := by
  have later : s.clock.ns ≤ (s.clock.advance elapsed).ns :=
    le_min (Nat.le_sub_of_add_le s.clock.fits) (Nat.le_add_right _ _)
  exact ⟨remembers.spaced,
    fun a member => (remembers.past a member).trans later,
    fun a member => (remembers.recorded a member).later later⟩

theorem Remembers.collectRequests (remembers : s.Remembers) {link : LinkTimers}
    (raises : s.repairs.Raises s.received s.totalTiles (s.flushInput link)) :
    (s.collectRequests link).Remembers := by
  have fits : s.clock.ns < 2 ^ 64 := by
    have := s.clock.fits
    unfold uint64Limit at this
    omega
  have history : RepairTracking.History s.received (s.flushInput link).now
      s.repairs s.trace.asked := remembers
  exact history.flush s.clock.running fits raises _

theorem Remembers.completeTiles (remembers : s.Remembers) (tileIds : List Nat)
    (generation : Nat) : (s.completeTiles tileIds generation).Remembers := by
  refine ⟨remembers.spaced, remembers.past, fun a member => ?_⟩
  -- What has arrived only grows.
  have grown : s.repairs.Recorded
      (ClientState.markCompletedBaseGenerations s.received tileIds generation)
      s.clock.ns a := by
    refine (remembers.recorded a member).imp_left fun arrived => ?_
    unfold ClientState.markCompletedBaseGenerations
    split_ifs with newer
    · exact arrived.trans newer.2.le
    · exact arrived
  exact grown.clearAllCompleted tileIds

theorem Remembers.step (remembers : s.Remembers) (event : RepairEvent)
    (raises : s.RaisesRecord event) : (s.step event).Remembers := by
  have acts := s.step_acts event
  generalize s.step event = t at acts ⊢
  cases acts with
  | ignored => exact remembers
  | tick elapsed => exact remembers.tick elapsed
  | offerSummary epoch entries idle =>
      unfold RepairState.offerSummary
      split_ifs
      · exact remembers
      · split
        · exact remembers
        · exact remembers.acceptContentEpoch epoch .tiles
  | @noteSummary link totalTiles read entries noting =>
      have noted := remembers.queueing
        (queueing_noteSummary s link read.ns totalTiles entries)
      exact noted
  | promote link idle => exact remembers.queueing (queueing_promote s link)
  | collect link idle => exact remembers.collectRequests (raises (by rw [idle]; rfl))
  | @send queued entries sending =>
      cases queued
      · exact remembers
      · exact remembers
  | completeTiles tileIds generation idle =>
      exact remembers.completeTiles tileIds generation
  | partialTimeout tileId generation idle =>
      exact remembers.queueing (queueing_partialTimeout s tileId generation)
  | markInflight tileId generation =>
      exact remembers.queueing (Queueing.refl.inflight _ _)
  | clearInflight tileId generation =>
      exact remembers.queueing (Queueing.refl.clearInflight tileId generation)
  | acceptEpoch epoch owner => exact remembers.acceptContentEpoch epoch owner
  | applyConfig totalTiles => exact remembers_of_forgotten rfl
  | resetEpoch epoch => exact remembers.resetContentEpoch epoch .tiles
  | connect totalTiles contentEpoch =>
      have fresh : (s.resetTables totalTiles []).Remembers :=
        remembers_of_forgotten rfl
      exact fresh.resetContentEpoch contentEpoch .tiles

instance (s : RepairState) : DecidablePred s.RaisesRecord
  | .collect _ => inferInstanceAs (Decidable (_ → _))
  | .tick _ | .offerSummary _ _ | .noteSummary _ | .promote _ | .send _
  | .completeTiles _ _ | .partialTimeout _ _ | .markInflight _ _
  | .clearInflight _ _ | .acceptEpoch _ _ | .applyConfig _ | .resetEpoch _
  | .connect _ _ => isTrue trivial

/-- In every run in which no flush asks for less than was last asked for, the
requests for one tile within one epoch are spaced. -/
theorem requests_spaced (totalTiles contentEpoch : Nat) (clock : MonotonicClock)
    {events : List RepairEvent}
    (raises : Along RepairState.step RaisesRecord
      (init totalTiles contentEpoch clock) events) :
    Spaced (repairRun (init totalTiles contentEpoch clock) events).trace.asked :=
  have remembers : (repairRun (init totalTiles contentEpoch clock)
      events).Remembers :=
    invariant_runFrom (fun _ event remembers raises =>
      remembers.step event raises) (remembers_of_forgotten rfl) raises
  remembers.spaced

end

theorem requests_spaced_twoGenerations :
    Along RepairState.step RaisesRecord (init 8 1 oneSecond)
      [.partialTimeout 0 9, .collect shortTimers, .send true, .tick 100000000,
        .partialTimeout 0 10, .collect shortTimers, .send true] ∧
      Spaced (repairRun (init 8 1 oneSecond)
        [.partialTimeout 0 9, .collect shortTimers, .send true,
          .tick 100000000, .partialTimeout 0 10, .collect shortTimers,
          .send true]).trace.asked ∧
      (repairRun (init 8 1 oneSecond)
        [.partialTimeout 0 9, .collect shortTimers, .send true,
          .tick 100000000, .partialTimeout 0 10, .collect shortTimers,
          .send true]).trace.sent = [⟨1, [(0, 9)]⟩, ⟨1, [(0, 10)]⟩] :=
  ⟨by decide +kernel, requests_spaced 8 1 oneSecond (by decide +kernel),
    by decide +kernel⟩

/-- Generation 9 is asked for when the interval after generation 10 is over, and
wipes out its record; then the interval grows, and generation 10 is asked for
again 300 ms after the first time, with 800 ms to keep. -/
theorem older_request_wipes_record :
    let timers := { shortTimers with udpGapPressureNs := 400000000 }
    let s := repairRun (init 8 1 oneSecond)
      [.partialTimeout 0 10, .collect shortTimers, .send true, .tick 260000000,
        .partialTimeout 0 9, .collect shortTimers, .send true, .tick 40000000,
        .partialTimeout 0 10, .collect timers, .send true]
    timers.requestIntervalNs = 800000000 ∧
      s.trace.sent = [⟨1, [(0, 10)]⟩, ⟨1, [(0, 9)]⟩, ⟨1, [(0, 10)]⟩] ∧
      ¬Spaced s.trace.asked := by
  decide +kernel

end RepairState

end WayDisplay.Client
