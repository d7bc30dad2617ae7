import WayDisplay.Client.Reassembly.Order
import WayDisplay.Client.Repairs.State

/-!
The whole receive path of one datagram (`process_udp_datagram`), down to the
queued upload, and what a rejected datagram does to it: nothing.

The reassembler, the tables of generations and repairs and the content epoch are
those of the receive path; with them goes what a completed tile is handed to, the
present queue or the framebuffer, and what a newer content epoch clears.  Other
threads act between datagrams in any way.
-/

namespace WayDisplay.Client

open Common Foundation

abbrev PixelBytes := List UInt8

structure DirtyTiles where
  shape : GridShape
  grid : ClientDirtyTileGrid shape

structure ClientContent where
  receiver : ReceiverState
  summaryPending : SummaryPending
  pendingPresentGeneration : Generations
  ownership : StreamOwnership
  tilePresentQueue : ClientTilePresentQueue PixelBytes
  pendingDirtyTiles : DirtyTiles
  pendingDirtyEpoch : Nat
  pendingVideoFrameDirty : Bool
  framebuffer : Image PixelBytes

def ReassembledTile.upload (tile : ReassembledTile) (rect : Rect)
    (ownership : StreamOwnership) : ClientTileUpload PixelBytes where
  rect := rect
  ownershipEpoch := ownership.epoch
  generation := tile.generation
  sourcePitch := tile.wire.size.width * bytesPerPixel
  byteSize := tile.tileBytes.length
  pixel := fun x y =>
    ReceiverState.slice tile.tileBytes
      ((y * tile.wire.size.width + x) * bytesPerPixel) bytesPerPixel

namespace ClientContent

/-! ## Content epochs -/

def resetPendingContent (c : ClientContent) (owner : ContentOwner) :
    ClientContent :=
  { c with
    pendingDirtyTiles :=
      ⟨c.pendingDirtyTiles.shape, c.pendingDirtyTiles.grid.clear⟩
    pendingPresentGeneration := fun _ => 0
    pendingVideoFrameDirty := false
    ownership := c.ownership.advance owner
    pendingDirtyEpoch := (c.ownership.advance owner).epoch }

def withReceiver (c : ClientContent) (receiver : ReceiverState) :
    ClientContent :=
  { c with receiver := receiver }

def acceptContentEpoch (c : ClientContent) (epoch : Nat)
    (owner : ContentOwner) : ClientContent :=
  match c.receiver.remote.judge epoch owner with
  | .advanced =>
      (c.resetPendingContent owner).withReceiver
        (c.receiver.acceptContentEpoch epoch owner)
  | _ => c

/-- A tile packet opens a newer epoch or belongs to the current one. -/
def enterEpoch (c : ClientContent) (epoch : Nat) : Option ClientContent :=
  match c.receiver.remote.judge epoch .tiles with
  | .stale => none
  | .current => some c
  | .advanced =>
      let c := c.acceptContentEpoch epoch .tiles
      some (c.withReceiver c.receiver.resetReassembler)

/-! ## Publication -/

/-- `mark_completed_base_generations` with the repairs a tile answers. -/
def markCompletedBaseGenerations (c : ClientContent) (tile : ReassembledTile) :
    ClientContent :=
  let tileIds := forEachCompletedBaseTile c.receiver.config.display tile.wire
  let receiver := c.receiver.markCompletedBaseGenerations tile
  { c with
    receiver := receiver
    pendingPresentGeneration := ClientState.markCompletedBaseGenerations
      c.pendingPresentGeneration tileIds tile.generation
    summaryPending := tileIds.foldl
      (fun pending => pending.clearCompleted receiver.receivedGeneration)
      c.summaryPending }

def blitTile (c : ClientContent) (tile : ReassembledTile) (rect : Rect) :
    ClientContent :=
  { c with
    framebuffer := paint c.framebuffer (tile.upload rect c.ownership).layer }

def markDirty (c : ClientContent) (grid : ClientDirtyTileGrid
    c.pendingDirtyTiles.shape) : ClientContent :=
  { c with
    pendingDirtyTiles := ⟨c.pendingDirtyTiles.shape, grid⟩
    pendingDirtyEpoch := c.ownership.epoch }

def showTile (c : ClientContent) (tile : ReassembledTile) (rect : Rect) :
    ClientContent :=
  match c.tilePresentQueue.push (tile.upload rect c.ownership) with
  | (_, .rejected, _) =>
      match c.pendingDirtyTiles.grid.markRect rect with
      | none => c.blitTile tile rect
      | some marked =>
          ((c.blitTile tile rect).markDirty marked).markCompletedBaseGenerations
            tile
  | (queue, _, _) =>
      { c with tilePresentQueue := queue }.markCompletedBaseGenerations tile

def publish (c : ClientContent) (tile : ReassembledTile) : ClientContent :=
  match tileUploadGeometry c.receiver.config.display tile.wire with
  | none => c
  | some rect => if c.receiver.presentable tile then c.showTile tile rect else c

/-! ## Datagrams -/

def offerAll (c : ClientContent) (offers : List (Nat × ContentOwner)) :
    ClientContent :=
  offers.foldl (fun c offer => c.acceptContentEpoch offer.1 offer.2) c

def receivePacket (zstd : Zstd) (c : ClientContent) (arrival : Arrival)
    (overtaking : List (Nat × ContentOwner)) : ClientContent :=
  match c.receiver.processUdpPacket zstd arrival with
  | (receiver, none) => c.withReceiver receiver
  | (receiver, some tile) =>
      ((c.withReceiver receiver).offerAll overtaking).publish tile

def processUdpDatagram (zstd : Zstd) (c : ClientContent) (arrival : Arrival)
    (overtaking : List (Nat × ContentOwner)) : ClientContent :=
  match c.receiver.screenDatagram zstd arrival.bytes with
  | none => c
  | some header =>
      match c.enterEpoch header.contentEpoch with
      | none => c
      | some c => c.receivePacket zstd arrival overtaking

/-! ## The receive path below -/

theorem acceptContentEpoch_receiver (c : ClientContent) (epoch : Nat)
    (owner : ContentOwner) :
    (c.acceptContentEpoch epoch owner).receiver =
      c.receiver.acceptContentEpoch epoch owner := by
  unfold acceptContentEpoch ReceiverState.acceptContentEpoch
  cases c.receiver.remote.judge epoch owner <;> rfl

theorem acceptContentEpoch_shape (c : ClientContent) (epoch : Nat)
    (owner : ContentOwner) :
    (c.acceptContentEpoch epoch owner).pendingDirtyTiles.shape =
      c.pendingDirtyTiles.shape := by
  unfold acceptContentEpoch
  cases c.receiver.remote.judge epoch owner <;> rfl

theorem offerAll_receiver (c : ClientContent)
    (offers : List (Nat × ContentOwner)) :
    (c.offerAll offers).receiver = c.receiver.offerAll offers := by
  induction offers generalizing c with
  | nil => rfl
  | cons offer rest ih =>
      have first := ih (c.acceptContentEpoch offer.1 offer.2)
      rw [acceptContentEpoch_receiver] at first
      exact first

theorem offerAll_shape (c : ClientContent)
    (offers : List (Nat × ContentOwner)) :
    (c.offerAll offers).pendingDirtyTiles.shape =
      c.pendingDirtyTiles.shape := by
  induction offers generalizing c with
  | nil => rfl
  | cons offer rest ih =>
      exact (ih (c.acceptContentEpoch offer.1 offer.2)).trans
        (acceptContentEpoch_shape c offer.1 offer.2)

theorem publish_receiver (c : ClientContent) (tile : ReassembledTile)
    (fitted : c.pendingDirtyTiles.shape =
      c.receiver.config.display.gridShape) :
    (c.publish tile).receiver = (c.receiver.publish tile).1 := by
  unfold publish ReceiverState.publish
  cases geometry : tileUploadGeometry c.receiver.config.display tile.wire with
  | none =>
      have hidden : c.receiver.presentable tile = false := by
        simp [ReceiverState.presentable, geometry]
      rw [if_neg (by simp [hidden])]
  | some rect =>
      dsimp only
      split_ifs
      · have visible := (shows_of_geometry geometry).visible
        obtain ⟨marked, dirty, -⟩ := markRect_eq_some c.pendingDirtyTiles.grid
          (show c.pendingDirtyTiles.shape.Holds rect by
            rw [fitted]
            exact ⟨visible.wide, visible.high, visible.insideX,
              visible.insideY⟩)
        unfold showTile
        rw [dirty]
        generalize c.tilePresentQueue.push (tile.upload rect c.ownership) =
          pushed
        obtain ⟨queue, result, left⟩ := pushed
        cases result <;> rfl
      · rfl

theorem enterEpoch_receiver (c : ClientContent) (epoch : Nat) :
    (c.enterEpoch epoch).map receiver = c.receiver.enterEpoch epoch := by
  have accepted := c.acceptContentEpoch_receiver epoch .tiles
  unfold enterEpoch ReceiverState.enterEpoch
  cases c.receiver.remote.judge epoch .tiles with
  | stale => rfl
  | current => rfl
  | advanced =>
      dsimp only [Option.map_some, withReceiver]
      rw [accepted]

theorem enterEpoch_shape {c d : ClientContent} {epoch : Nat}
    (entered : c.enterEpoch epoch = some d) :
    d.pendingDirtyTiles.shape = c.pendingDirtyTiles.shape := by
  have accepted := c.acceptContentEpoch_shape epoch .tiles
  unfold enterEpoch at entered
  cases judged : c.receiver.remote.judge epoch .tiles with
  | stale => simp [judged] at entered
  | current =>
      simp only [judged, Option.some.injEq] at entered
      rw [entered]
  | advanced =>
      simp only [judged, Option.some.injEq] at entered
      rw [← entered]
      exact accepted

theorem processUdpDatagram_receiver (zstd : Zstd) (c : ClientContent)
    (arrival : Arrival) (overtaking : List (Nat × ContentOwner))
    (safe : c.receiver.Safe)
    (fitted : c.pendingDirtyTiles.shape =
      c.receiver.config.display.gridShape) :
    (c.processUdpDatagram zstd arrival overtaking).receiver =
      (c.receiver.processUdpDatagram zstd arrival overtaking).state := by
  unfold processUdpDatagram ReceiverState.processUdpDatagram
  cases screened : c.receiver.screenDatagram zstd arrival.bytes with
  | none => rfl
  | some header =>
      dsimp only
      have below := c.enterEpoch_receiver header.contentEpoch
      cases opened : c.enterEpoch header.contentEpoch with
      | none =>
          rw [opened, Option.map_none] at below
          rw [← below]
      | some d =>
          rw [opened, Option.map_some] at below
          rw [← below]
          have entered := ReceiverState.enterEpoch_entered below.symm
          have decoded := ReceiverState.screenDatagram_decoded screened
          have kept := (@ReceiverState.processUdpPacket_rest zstd d.receiver
            arrival (entered.safe safe) (by
              intro other again
              rw [decoded, Option.some.injEq] at again
              rw [← again, entered.remote])).1
          dsimp only
          unfold receivePacket ReceiverState.receivePacket
          generalize d.receiver.processUdpPacket zstd arrival = outcome
            at kept ⊢
          obtain ⟨after, completed⟩ := outcome
          cases completed with
          | none => rfl
          | some tile =>
              dsimp only at kept ⊢
              rw [publish_receiver, offerAll_receiver]
              · rfl
              · rw [offerAll_shape, offerAll_receiver]
                have offered := (after.offerAll_rest overtaking).1
                change d.pendingDirtyTiles.shape =
                  (after.offerAll overtaking).config.display.gridShape
                rw [offered, kept, entered.config, enterEpoch_shape opened,
                  fitted]

/-! ## Rejected datagrams -/

/-- Why a datagram is dropped before it reaches the reassembler. -/
inductive Rejected (zstd : Zstd) (c : ClientContent) (packet : List UInt8) :
    Prop
  | undecodable (failed : udpTilePacketDecode packet = none)
  | probe {header : UdpTilePacketDecoded}
      (decoded : udpTilePacketDecode packet = some header)
      (probes : header.tileId = udpTileIdMtuProbe ∨
        header.tileId = udpTileIdThroughputProbe)
  | foreign {header : UdpTilePacketDecoded}
      (decoded : udpTilePacketDecode packet = some header)
      (differs : header.sessionId ≠ c.receiver.config.sessionId ∨
        header.connectionToken ≠ c.receiver.config.connectionToken)
  | invalid {header : UdpTilePacketDecoded}
      (decoded : udpTilePacketDecode packet = some header)
      (fails : ReceiverState.validateTilePacketHeader zstd c.receiver.config
        header packet.length ≠ .valid)
  | stale {header : UdpTilePacketDecoded}
      (decoded : udpTilePacketDecode packet = some header)
      (outdated : c.receiver.remote.judge header.contentEpoch .tiles = .stale)

/-- What passes the screen has the header it was decoded to, and none of the
faults that need no content. -/
theorem screenDatagram_eq_some {zstd : Zstd} {s : ReceiverState}
    {packet : List UInt8} {header : UdpTilePacketDecoded}
    (screened : s.screenDatagram zstd packet = some header) :
    udpTilePacketDecode packet = some header ∧
      header.tileId ≠ udpTileIdMtuProbe ∧
      header.tileId ≠ udpTileIdThroughputProbe ∧
      header.sessionId = s.config.sessionId ∧
      header.connectionToken = s.config.connectionToken ∧
      ReceiverState.validateTilePacketHeader zstd s.config header
        packet.length = .valid := by
  have decoded := ReceiverState.screenDatagram_decoded screened
  unfold ReceiverState.screenDatagram at screened
  rw [decoded] at screened
  dsimp only at screened
  split_ifs at screened with probes foreign invalid
  push Not at probes foreign invalid
  exact ⟨decoded, probes.1, probes.2, foreign.2.1, foreign.2.2, invalid⟩

theorem Rejected.unchanged {zstd : Zstd} {c : ClientContent} {arrival : Arrival}
    (rejected : Rejected zstd c arrival.bytes)
    (overtaking : List (Nat × ContentOwner)) :
    c.processUdpDatagram zstd arrival overtaking = c := by
  unfold processUdpDatagram
  cases screened : c.receiver.screenDatagram zstd arrival.bytes with
  | none => rfl
  | some header =>
      obtain ⟨decoded, mtu, throughput, session, token, valid⟩ :=
        screenDatagram_eq_some screened
      cases rejected with
      | undecodable failed =>
          rw [decoded] at failed
          cases failed
      | probe decoded' probes =>
          cases decoded.symm.trans decoded'
          exact absurd probes (not_or.mpr ⟨mtu, throughput⟩)
      | foreign decoded' differs =>
          cases decoded.symm.trans decoded'
          exact absurd differs
            (not_or.mpr ⟨not_not.mpr session, not_not.mpr token⟩)
      | invalid decoded' fails =>
          cases decoded.symm.trans decoded'
          exact absurd valid fails
      | stale decoded' outdated =>
          cases decoded.symm.trans decoded'
          have refused : c.enterEpoch header.contentEpoch = none := by
            unfold enterEpoch
            rw [outdated]
          dsimp only
          rw [refused]

end ClientContent

/-! ## Erasing rejected datagrams -/

inductive ContentEvent where
  | datagram (arrival : Arrival) (overtaking : List (Nat × ContentOwner))
  | other (act : ClientContent → ClientContent)

def ContentEvent.step (zstd : Zstd) (c : ClientContent)
    (event : ContentEvent) : ClientContent :=
  match event with
  | .datagram arrival overtaking => c.processUdpDatagram zstd arrival overtaking
  | .other act => act c

def contentRun (zstd : Zstd) (c : ClientContent) (events : List ContentEvent) :
    ClientContent :=
  runFrom (ContentEvent.step zstd) c events

/-- The second list is the first without some of the datagrams that are rejected
where they arrive. -/
inductive Erases (zstd : Zstd) :
    ClientContent → List ContentEvent → List ContentEvent → Prop
  | nil (c : ClientContent) : Erases zstd c [] []
  | keep {c : ClientContent} {event : ContentEvent}
      {rest kept : List ContentEvent}
      (later : Erases zstd (ContentEvent.step zstd c event) rest kept) :
      Erases zstd c (event :: rest) (event :: kept)
  | erase {c : ClientContent} {arrival : Arrival}
      {overtaking : List (Nat × ContentOwner)} {rest kept : List ContentEvent}
      (rejected : ClientContent.Rejected zstd c arrival.bytes)
      (later : Erases zstd
        (ContentEvent.step zstd c (.datagram arrival overtaking)) rest kept) :
      Erases zstd c (.datagram arrival overtaking :: rest) kept

/--
Erasing rejected datagrams changes nothing of what the client has and shows: a
sender without the connection token has no influence.
-/
theorem contentRun_of_erases (zstd : Zstd) (c : ClientContent)
    (events kept : List ContentEvent) (erases : Erases zstd c events kept) :
    contentRun zstd c events = contentRun zstd c kept := by
  induction erases with
  | nil c => rfl
  | keep later ih => exact ih
  | erase rejected later ih =>
      rename_i c arrival overtaking rest kept
      have same : ContentEvent.step zstd c (.datagram arrival overtaking) = c :=
        rejected.unchanged overtaking
      rw [same] at ih
      unfold contentRun
      rw [runFrom_cons, same]
      exact ih

def freshContent : ClientContent where
  receiver := .initial smallPackets 1 512 65536
  summaryPending := .empty
  pendingPresentGeneration := fun _ => 0
  ownership := .initial
  tilePresentQueue := .initial
  pendingDirtyTiles := ⟨smallPackets.display.gridShape, .clean⟩
  pendingDirtyEpoch := 0
  pendingVideoFrameDirty := false
  framebuffer := fun _ => ⟨[], 0⟩

def foreignHeader : UdpTilePacketDecoded where
  sessionId := smallPackets.sessionId
  connectionToken := 2
  contentEpoch := 5
  flags := 0
  tileSize := .tile16x16
  tilePktId := 0
  tileId := 0
  tilePktCount := 2
  payloadSize := 512
  tilePayloadSize := 1024
  tileGeneration := 9
  inputSequence := 0
  headerSize := udpTileHeaderMinSize

/-- A datagram with a newer epoch and generation but not the client's token. -/
def foreignPacket : Arrival where
  bytes := (udpTilePacketEncodeHeader 44 foreignHeader).getD [] ++
    List.replicate 512 255
  now := 5
  timeoutNs := 1000

theorem contentRun_without_foreign :
    contentRun .stored freshContent
        [.datagram (halfTile 1 1 1 10) [], .datagram foreignPacket [],
          .datagram (halfTile 1 1 0 20) []] =
      contentRun .stored freshContent
        [.datagram (halfTile 1 1 1 10) [],
          .datagram (halfTile 1 1 0 20) []] := by
  have decoded : udpTilePacketDecode foreignPacket.bytes =
      some foreignHeader := by decide +kernel
  exact contentRun_of_erases .stored freshContent _ _
    (.keep (.erase (.foreign decoded (.inr (by decide +kernel)))
      (.keep (.nil _))))

/-! ## The receive path below, over whole runs -/

theorem ReceiverState.processUdpDatagram_config {s : ReceiverState}
    (safe : s.Safe) (zstd : Zstd) (arrival : Arrival)
    (overtaking : List (Nat × ContentOwner)) :
    (s.processUdpDatagram zstd arrival overtaking).state.config = s.config := by
  rcases processUdpDatagram_cases zstd s arrival overtaking with
    ignored | ⟨header, t, screened, entered, taken⟩
  · rw [ignored]
  have packet := (@processUdpPacket_rest zstd t arrival (entered.safe safe)
    (entered.current screened)).1.trans entered.config
  rw [taken]
  rcases receivePacket_cases zstd t arrival overtaking with
    ⟨same, -⟩ | ⟨tile, -, same⟩
  · rw [same]
    exact packet
  · rw [same]
    exact (publish_rest _ tile).2.2.2.trans
      ((offerAll_rest _ overtaking).1.trans packet)

namespace ClientContent

def Fitted (c : ClientContent) : Prop :=
  c.pendingDirtyTiles.shape = c.receiver.config.display.gridShape

theorem publish_shape (c : ClientContent) (tile : ReassembledTile) :
    (c.publish tile).pendingDirtyTiles.shape = c.pendingDirtyTiles.shape := by
  unfold publish showTile
  split
  · rfl
  · split_ifs
    · split
      · split <;> rfl
      · rfl
    · rfl

theorem processUdpDatagram_shape (zstd : Zstd) (c : ClientContent)
    (arrival : Arrival) (overtaking : List (Nat × ContentOwner)) :
    (c.processUdpDatagram zstd arrival overtaking).pendingDirtyTiles.shape =
      c.pendingDirtyTiles.shape := by
  unfold processUdpDatagram receivePacket
  split
  · rfl
  split
  · rfl
  rename_i d opened
  have entered := enterEpoch_shape opened
  split
  · exact entered
  · rw [publish_shape, offerAll_shape]
    exact entered

/-- What an event does to the receive path: a datagram is received, and another
thread does what the label says and keeps the dirty grid at the display's size. -/
def Performs (zstd : Zstd) (c : ClientContent) :
    ContentEvent × Option ReceiverEvent → Prop
  | (.datagram arrival overtaking, label) =>
      label = some (.datagram arrival overtaking)
  | (.other act, label) => (act c).Fitted ∧
      (act c).receiver = label.elim c.receiver (c.receiver.step zstd)

theorem Performs.step {zstd : Zstd} {c : ClientContent} {event : ContentEvent}
    {label : Option ReceiverEvent} (performs : c.Performs zstd (event, label))
    (safe : c.receiver.Safe) (fitted : c.Fitted) :
    (event.step zstd c).Fitted ∧ (event.step zstd c).receiver =
      label.elim c.receiver (c.receiver.step zstd) := by
  cases event with
  | datagram arrival overtaking =>
      cases performs
      have same := c.processUdpDatagram_receiver zstd arrival overtaking safe
        fitted
      refine ⟨(c.processUdpDatagram_shape zstd arrival overtaking).trans ?_, same⟩
      rw [ContentEvent.step, same, ReceiverState.processUdpDatagram_config safe]
      exact fitted
  | other act => exact performs

end ClientContent

/-- Whatever the threads interleave, the client receives as its receiver does. -/
theorem contentRun_refines_receiver {zstd : Zstd} {c : ClientContent}
    {events : List (ContentEvent × Option ReceiverEvent)}
    (safe : c.receiver.Safe) (fitted : c.Fitted)
    (performs : Along (fun c event => event.1.step zstd c)
      (ClientContent.Performs zstd) c events) :
    (contentRun zstd c (events.map Prod.fst)).receiver =
      runFrom (ReceiverState.step zstd) c.receiver
        (events.filterMap Prod.snd) := by
  induction events generalizing c with
  | nil => rfl
  | cons event rest ih =>
      obtain ⟨first, later⟩ := performs
      obtain ⟨event, label⟩ := event
      obtain ⟨fits, same⟩ := first.step safe fitted
      cases label with
      | none =>
          have next := ih (same ▸ safe) fits later
          rw [same] at next
          exact next
      | some label =>
          have next := ih (same ▸ ReceiverState.step_safe label safe) fits later
          rw [same] at next
          exact next

/-- The tiles take over in epoch 2; a packet of the epoch before is dropped, and
the two halves of a tile of the new one are put together. -/
def twoHalves : List (ContentEvent × Option ReceiverEvent) :=
  [(.other (·.acceptContentEpoch 2 .tiles), some (.offerContentEpoch 2 .tiles)),
    (.datagram (halfTile 1 1 1 5) [], some (.datagram (halfTile 1 1 1 5) [])),
    (.datagram (halfTile 2 1 1 10) [], some (.datagram (halfTile 2 1 1 10) [])),
    (.datagram (halfTile 2 1 0 20) [], some (.datagram (halfTile 2 1 0 20) []))]

theorem contentRun_refines_receiver_twoHalves :
    (contentRun .stored freshContent (twoHalves.map Prod.fst)).receiver =
        runFrom (ReceiverState.step .stored) freshContent.receiver
          (twoHalves.filterMap Prod.snd) ∧
      (contentRun .stored freshContent
        (twoHalves.map Prod.fst)).receiver.receivedGeneration 0 = 1 :=
  ⟨contentRun_refines_receiver (ReceiverState.initial_bounded ..).safe rfl
    ⟨⟨freshContent.acceptContentEpoch_shape 2 .tiles,
      freshContent.acceptContentEpoch_receiver 2 .tiles⟩, rfl, rfl, rfl,
      trivial⟩, by decide +kernel⟩

end WayDisplay.Client
