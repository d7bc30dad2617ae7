import WayDisplay.Client.Reassembly.Consistency

/-!
Generations are received in order.

Packets are checked against the received generations when they arrive, while
other tiles over the same base tiles may complete between them.  The check is
made again by the packet that completes a tile, so no base tile ever falls back.
-/

namespace WayDisplay.Client

open Common Foundation

/-! ## Generations of completed tiles -/

theorem wantsGeneration_spec {received : Generations} {tileIds : List Nat}
    {generation : Nat}
    (wanted : ClientState.wantsGeneration received tileIds generation = true) :
    ∀ id ∈ tileIds, received id ≤ generation := by
  intro id member
  simp only [ClientState.wantsGeneration, Bool.and_eq_true, Bool.not_eq_true',
    List.any_eq_false, decide_eq_true_eq, Nat.not_lt] at wanted
  exact wanted.1.2 id member

namespace ClientState

theorem markCompleted_of_mem {generations : Generations} {ids : List Nat}
    {generation id : Nat} (member : id ∈ ids) :
    markCompletedBaseGenerations generations ids generation id =
      max generation (generations id) := by
  simp only [markCompletedBaseGenerations, member, true_and]
  split <;> omega

theorem markCompleted_of_not_mem {generations : Generations} {ids : List Nat}
    {generation id : Nat} (other : id ∉ ids) :
    markCompletedBaseGenerations generations ids generation id =
      generations id :=
  if_neg fun both => other both.1

theorem le_markCompleted (generations : Generations) (ids : List Nat)
    (generation id : Nat) :
    generations id ≤
      markCompletedBaseGenerations generations ids generation id := by
  by_cases member : id ∈ ids
  · rw [markCompleted_of_mem member]
    exact Nat.le_max_right _ _
  · rw [markCompleted_of_not_mem member]

end ClientState

/-- A configuration, or the reset of the content that belongs to it. -/
def ReceiverEvent.isConfigure : ReceiverEvent → Bool
  | .configure _ => true
  | .resetContentEpoch _ _ => true
  | _ => false

namespace ReceiverState

variable {zstd : Zstd} {s t : ReceiverState}

/-! ## One datagram -/

theorem Entered.received {epoch : Nat} (entered : Entered s epoch t) :
    t.receivedGeneration = s.receivedGeneration := by
  rcases entered.cases with rfl | ⟨-, rfl⟩
  · rfl
  · exact resetReassembler_rest.2.2

theorem Entered.safe {epoch : Nat} (entered : Entered s epoch t)
    (safe : s.Safe) : t.Safe :=
  (entered.bounded ⟨safe, rfl⟩).safe

theorem Entered.config {epoch : Nat} (entered : Entered s epoch t) :
    t.config = s.config := by
  rcases entered.cases with rfl | ⟨-, rfl⟩
  · rfl
  · exact resetReassembler_rest.1

theorem processUdpPacket_rest {arrival : Arrival} (safe : s.Safe)
    (current : ∀ header, udpTilePacketDecode arrival.bytes = some header →
      header.contentEpoch = s.remote.epoch) :
    (processUdpPacket zstd s arrival).1.config = s.config ∧
      (processUdpPacket zstd s arrival).1.remote = s.remote ∧
      (processUdpPacket zstd s arrival).1.receivedGeneration =
        s.receivedGeneration := by
  cases admitted : admitPacket zstd s arrival.bytes with
  | none =>
      rw [processUdpPacket_refused admitted]
      exact ⟨rfl, rfl, rfl⟩
  | some header =>
      obtain ⟨checked, -⟩ := admitPacket_eq_some admitted
      refine (processUdpPacket_taken safe admitted
        (current header checked.decoded)).keep safe checked
        (P := fun t => t.config = s.config ∧ t.remote = s.remote ∧
          t.receivedGeneration = s.receivedGeneration)
        (fun laid => laid.rest) ?_ ⟨rfl, rfl, rfl⟩
      rintro t t' act ⟨config, remote, received⟩
      obtain ⟨config', remote', received'⟩ := act.rest
      exact ⟨config'.trans config, remote'.trans remote,
        received'.trans received⟩

theorem processUdpPacket_completed {arrival : Arrival} {tile : ReassembledTile}
    (safe : s.Safe)
    (current : ∀ header, udpTilePacketDecode arrival.bytes = some header →
      header.contentEpoch = s.remote.epoch)
    (completed : (processUdpPacket zstd s arrival).2 = some tile) :
    ClientState.wantsGeneration s.receivedGeneration
        (forEachBaseTileCovered s.config.display tile.wire) tile.generation =
      true ∧ tile.contentEpoch = s.remote.epoch := by
  cases admitted : admitPacket zstd s arrival.bytes with
  | none =>
      rw [processUdpPacket_refused admitted] at completed
      cases completed
  | some header =>
      obtain ⟨checked, wanted⟩ := admitPacket_eq_some admitted
      have epoch := current header checked.decoded
      obtain ⟨wire, generation, contentEpoch, -⟩ :=
        (processUdpPacket_taken safe admitted epoch).completed completed
      rw [wire, generation]
      exact ⟨wanted, contentEpoch.trans epoch⟩

theorem publish_received (s : ReceiverState) (tile : ReassembledTile)
    (tileId : Nat) :
    s.receivedGeneration tileId ≤
      (s.publish tile).1.receivedGeneration tileId := by
  unfold publish
  split
  · exact ClientState.le_markCompleted _ _ _ _
  · exact Nat.le_refl _

theorem receivePacket_received {arrival : Arrival}
    {overtaking : List (Nat × ContentOwner)} (safe : s.Safe)
    (current : ∀ header, udpTilePacketDecode arrival.bytes = some header →
      header.contentEpoch = s.remote.epoch) (tileId : Nat) :
    s.receivedGeneration tileId ≤
      (s.receivePacket zstd arrival overtaking).state.receivedGeneration
        tileId := by
  obtain ⟨-, -, received⟩ : _ ∧ _ ∧ (processUdpPacket zstd s
    arrival).1.receivedGeneration = _ := processUdpPacket_rest safe current
  rcases receivePacket_cases zstd s arrival overtaking with
    ⟨pending, -⟩ | ⟨tile, -, completed⟩
  · rw [pending, received]
  · rw [completed]
    obtain ⟨-, -, -, offered, -⟩ :=
      (processUdpPacket zstd s arrival).1.offerAll_rest overtaking
    rw [← received, ← offered]
    exact publish_received _ _ _

theorem receivePacket_accepted {arrival : Arrival}
    {overtaking : List (Nat × ContentOwner)} {tile : ReassembledTile}
    (safe : s.Safe)
    (current : ∀ header, udpTilePacketDecode arrival.bytes = some header →
      header.contentEpoch = s.remote.epoch)
    (accepted : (s.receivePacket zstd arrival overtaking).accepted =
      some tile) :
    ∀ tileId ∈ forEachCompletedBaseTile s.config.display tile.wire,
      s.receivedGeneration tileId ≤ tile.generation := by
  rcases receivePacket_cases zstd s arrival overtaking with
    ⟨pending, -⟩ | ⟨other, completed, result⟩
  · rw [pending] at accepted
    cases accepted
  · rw [result] at accepted
    have same : other = tile := by
      unfold publish at accepted
      dsimp only at accepted
      split at accepted
      · exact Option.some.inj accepted
      · cases accepted
    subst same
    exact wantsGeneration_spec
      (processUdpPacket_completed safe current completed).1

/-! ## Along a run -/

theorem step_received (safe : s.Safe) {event : ReceiverEvent}
    (same : event.isConfigure = false) (tileId : Nat) :
    s.receivedGeneration tileId ≤
      (s.step zstd event).receivedGeneration tileId := by
  cases event with
  | datagram arrival overtaking =>
      show _ ≤ (s.processUdpDatagram zstd arrival
        overtaking).state.receivedGeneration tileId
      rcases processUdpDatagram_cases zstd s arrival overtaking with
        ignored | ⟨header, t, screened, entered, taken⟩
      · rw [ignored]
      · rw [taken, ← entered.received]
        exact receivePacket_received (entered.safe safe)
          (entered.current screened) tileId
  | expire now timeoutNs =>
      have acts : Acts zstd none s (s.expireStaleEntries now timeoutNs) :=
        expireStaleEntries_acts _ _
      exact Nat.le_of_eq (congrFun acts.rest.2.2.symm tileId)
  | offerContentEpoch epoch owner =>
      obtain ⟨-, -, -, received, -⟩ := s.acceptContentEpoch_rest epoch owner
      exact Nat.le_of_eq (congrFun received.symm tileId)
  | queueRetransmit repaired generation =>
      show _ ≤ (s.queueRetransmitTile repaired generation).receivedGeneration
        tileId
      unfold queueRetransmitTile
      split
      · exact Nat.le_refl _
      · exact Nat.le_refl _
  | flush input => exact Nat.le_refl _
  | configure | resetContentEpoch => cases same
  | observeConfiguration =>
      exact Nat.le_of_eq (congrFun resetReassembler_rest.2.2.symm tileId)

theorem acceptedBy_notOutdated (safe : s.Safe) {event : ReceiverEvent}
    {tile : ReassembledTile}
    (accepted : s.acceptedBy zstd event = some tile) :
    ∀ tileId ∈ forEachCompletedBaseTile s.config.display tile.wire,
      s.receivedGeneration tileId ≤ tile.generation := by
  cases event with
  | datagram arrival overtaking =>
      rw [acceptedBy] at accepted
      rcases processUdpDatagram_cases zstd s arrival overtaking with
        ignored | ⟨header, t, screened, entered, taken⟩
      · rw [ignored] at accepted
        cases accepted
      · rw [taken] at accepted
        rw [← entered.received, ← entered.config]
        exact receivePacket_accepted (entered.safe safe)
          (entered.current screened) accepted
  | expire => cases accepted
  | offerContentEpoch => cases accepted
  | queueRetransmit => cases accepted
  | flush => cases accepted
  | configure => cases accepted
  | resetContentEpoch => cases accepted
  | observeConfiguration => cases accepted

theorem step_safe (event : ReceiverEvent) (safe : s.Safe) :
    (s.step zstd event).Safe :=
  (step_bounded event ⟨safe, rfl⟩).safe

theorem run_received {events : List ReceiverEvent} (safe : s.Safe)
    (between : ∀ event ∈ events, event.isConfigure = false) (tileId : Nat) :
    s.receivedGeneration tileId ≤
      (runFrom (step zstd) s events).receivedGeneration tileId :=
  related_runFrom
    (fun s t => s.receivedGeneration tileId ≤ t.receivedGeneration tileId)
    (fun _ => Nat.le_refl _) (fun _ _ _ => Nat.le_trans)
    (fun _ event safe _ => step_safe event safe)
    (fun _ _ safe same => step_received safe same tileId)
    safe (along_of_forall
      (fun event : ReceiverEvent => event.isConfigure = false) between)

/--
Between two configurations, after any history: the generation received for a
base tile never decreases, and whatever tile the next event accepts for
presentation, no base tile under it holds a newer one.
-/
theorem generations_received_in_order (zstd : Zstd) (config : ReceiveConfig)
    (contentEpoch maxActiveEntries maxActivePayloadBytes : Nat)
    (history events : List ReceiverEvent)
    (between : ∀ event ∈ events, event.isConfigure = false) :
    let start := runFrom (step zstd) (initial config contentEpoch
      maxActiveEntries maxActivePayloadBytes) history
    let s := runFrom (step zstd) start events
    (∀ tileId, start.receivedGeneration tileId ≤
      s.receivedGeneration tileId) ∧
      ∀ event tile, s.acceptedBy zstd event = some tile →
        ∀ tileId ∈ forEachCompletedBaseTile s.config.display tile.wire,
          s.receivedGeneration tileId ≤ tile.generation := by
  intro start s
  have safeStart : start.Safe := (run_bounded zstd config contentEpoch
    maxActiveEntries maxActivePayloadBytes history).safe
  have safe : (runFrom (step zstd) start events).Safe :=
    invariant_runFrom_of_step (fun _ event safe => step_safe event safe)
      safeStart events
  exact ⟨run_received safeStart between,
    fun event tile accepted => acceptedBy_notOutdated safe accepted⟩

def firstReceived : ReceiverState :=
  runFrom (step .stored) (initial onePixelReceive 3 8 4096)
    [.datagram (wholeTile onePixelReceive 3 5) []]

/-- A later generation is accepted there. -/
theorem generations_received_in_order_onePixel :
    firstReceived.receivedGeneration 0 = 5 ∧
      ∃ tile, firstReceived.acceptedBy .stored
          (.datagram (wholeTile onePixelReceive 3 7) []) = some tile ∧
        ∀ tileId ∈ forEachCompletedBaseTile firstReceived.config.display
            tile.wire,
          firstReceived.receivedGeneration tileId ≤ tile.generation := by
  have received : firstReceived.receivedGeneration 0 = 5 := by decide +kernel
  have accepted : (firstReceived.acceptedBy .stored
      (.datagram (wholeTile onePixelReceive 3 7) [])).isSome = true := by
    decide +kernel
  obtain ⟨-, inOrder⟩ := generations_received_in_order .stored onePixelReceive
    3 8 4096 [] [.datagram (wholeTile onePixelReceive 3 5) []]
    fun event member => by
      rw [List.mem_singleton.mp member]
      rfl
  rw [runFrom_nil, ← firstReceived] at inOrder
  obtain ⟨tile, found⟩ := Option.isSome_iff_exists.mp accepted
  exact ⟨received, tile, found, inOrder _ tile found⟩

end ReceiverState

end WayDisplay.Client
