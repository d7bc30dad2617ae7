import WayDisplay.Client.Reassembly.WellFormed

/-!
Every operation of the reassembler is a sequence of acts.
-/

namespace WayDisplay.Client

open Common Foundation

namespace ReceiverState

variable {zstd : Zstd} {taken : Option UdpTilePacketDecoded}
  {tile : WireTile} {s : ReceiverState}

/-! ## Giving entries up -/

variable {index : Nat}

theorem removeEntry_of_none {cause : RetireCause}
    (absent : s.reassembler.activeEntries[index]? = none) :
    s.removeEntry index cause = s := by
  rw [removeEntry, absent]

theorem expireEntry_acts (index : Nat) :
    Acts zstd taken s (s.expireEntry index) := by
  unfold expireEntry abandonEntry
  cases stored : s.reassembler.activeEntries[index]? with
  | none => exact .refl
  | some entry => exact (Act.abandon stored rfl (Or.inl rfl)).acts

theorem evictEntryForBudget_acts (index : Nat) :
    Acts zstd taken s (s.evictEntryForBudget index) := by
  unfold evictEntryForBudget abandonEntry
  cases stored : s.reassembler.activeEntries[index]? with
  | none => exact .refl
  | some entry => exact (Act.abandon stored rfl (Or.inr (Or.inl rfl))).acts

variable {header : UdpTilePacketDecoded}

theorem abandonEntry_acts {entry : Entry} {cause : RetireCause}
    (stored : s.reassembler.activeEntries[index]? = some entry)
    (own : entry.tile = header.tile) (loss : cause.isLoss = true) :
    Acts zstd (some header) s (s.abandonEntry index cause) := by
  unfold abandonEntry
  rw [stored]
  exact (Act.abandon stored loss (Or.inr (Or.inr ⟨header, rfl, own⟩))).acts

theorem removeEntry_length (cause : RetireCause)
    (inside : index < s.reassembler.activeEntries.length) :
    (s.removeEntry index cause).reassembler.activeEntries.length + 1 =
      s.reassembler.activeEntries.length := by
  have stored := List.getElem?_eq_getElem inside
  rw [removeEntry_eq stored]
  exact ((TileReassembler.removeEntry_removed stored).length stored).symm

variable {s : ReceiverState}

theorem removeAll_idle {count : Nat}
    (enough : s.reassembler.activeEntries.length ≤ count) :
    (removeAll count s).reassembler.activeEntries = [] := by
  induction count generalizing s with
  | zero => exact List.length_eq_zero_iff.mp (Nat.le_zero.mp enough)
  | succ count ih =>
      unfold removeAll
      apply ih
      cases blank : s.reassembler.activeEntries with
      | nil =>
          rw [removeEntry_of_none (by rw [blank]; rfl), blank]
          exact Nat.zero_le _
      | cons entry rest =>
          have inside : s.reassembler.activeEntries.length - 1 <
              s.reassembler.activeEntries.length := by
            rw [blank, List.length_cons]
            omega
          have shorter := removeEntry_length .reset inside
          rw [← blank]
          omega

theorem removeAll_rest (count : Nat) (s : ReceiverState) :
    (removeAll count s).config = s.config ∧
      (removeAll count s).remote = s.remote ∧
      (removeAll count s).receivedGeneration = s.receivedGeneration := by
  induction count generalizing s with
  | zero => exact ⟨rfl, rfl, rfl⟩
  | succ count ih =>
      obtain ⟨config, remote, received⟩ := removeEntry_config (s := s)
        (s.reassembler.activeEntries.length - 1) .reset
      obtain ⟨config', remote', received'⟩ :=
        ih (s.removeEntry (s.reassembler.activeEntries.length - 1) .reset)
      exact ⟨config'.trans config, remote'.trans remote,
        received'.trans received⟩

theorem resetReassembler_rest :
    s.resetReassembler.config = s.config ∧
      s.resetReassembler.remote = s.remote ∧
      s.resetReassembler.receivedGeneration = s.receivedGeneration :=
  removeAll_rest _ _

theorem removeAll_safe (count : Nat) (safe : s.Safe) :
    (removeAll count s).Safe := by
  induction count generalizing s with
  | zero => exact safe
  | succ count ih =>
      unfold removeAll
      apply ih
      cases stored : s.reassembler.activeEntries[
          s.reassembler.activeEntries.length - 1]? with
      | none =>
          rw [removeEntry_of_none stored]
          exact safe
      | some entry => exact safe.removeEntry stored

theorem resetReassembler_safe (safe : s.Safe) : s.resetReassembler.Safe := by
  have removed := removeAll_safe s.reassembler.activeEntries.length safe
  exact ⟨removed.well.relaid (removeAll_idle (Nat.le_refl _)) _ _ _,
    removed.copies⟩

theorem removeAll_limits (count : Nat) (s : ReceiverState) :
    limits (removeAll count s).reassembler = limits s.reassembler := by
  induction count generalizing s with
  | zero => rfl
  | succ count ih => exact (ih _).trans (removeEntry_limits _ _)

def FrameFits (s : ReceiverState) : Prop :=
  s.reassembler.entryFrameWidth = s.config.display.width ∧
    s.reassembler.entryFrameHeight = s.config.display.height

structure Laid (s t : ReceiverState) : Prop where
  rest : t.config = s.config ∧ t.remote = s.remote ∧
    t.receivedGeneration = s.receivedGeneration
  repairs : t.repairs = s.repairs
  safe : s.Safe → t.Safe
  limits : limits t.reassembler = limits s.reassembler
  frame : t.FrameFits
  slots : t = s ∨ ∀ size, t.reassembler.slotCount size =
    tilesForWidthWithTile s.config.display.width size.width *
      tilesForHeightWithTile s.config.display.height size.height
  kept : s.FrameFits ∨ s.reassembler.activeEntries = [] →
    t.trace = s.trace ∧ t.reassembler.table = s.reassembler.table

theorem removeAll_repairs (count : Nat) (s : ReceiverState) :
    (removeAll count s).repairs = s.repairs := by
  induction count generalizing s with
  | zero => rfl
  | succ count ih =>
      refine (ih _).trans ?_
      unfold removeEntry
      split <;> rfl

theorem slotCountsFor_eq_some {display : ServerConfig} {counts : TileSize → Nat}
    (laid : TileReassembler.slotCountsFor display = some counts)
    (size : TileSize) :
    counts size = tilesForWidthWithTile display.width size.width *
      tilesForHeightWithTile display.height size.height := by
  unfold TileReassembler.slotCountsFor at laid
  dsimp only at laid
  split at laid
  · rw [← Option.some.inj laid]
  · cases laid

theorem configureEntrySlots_laid {t : ReceiverState}
    (configured : s.configureEntrySlots = some t) : Laid s t := by
  unfold configureEntrySlots at configured
  dsimp only at configured
  split at configured
  next fits =>
      cases Option.some.inj configured
      exact ⟨⟨rfl, rfl, rfl⟩, rfl, id, rfl, ⟨fits.1, fits.2.1⟩, Or.inl rfl,
        fun _ => ⟨rfl, rfl⟩⟩
  next differs =>
      split at configured
      · cases configured
      · rename_i counts laid
        cases Option.some.inj configured
        obtain ⟨config, remote, received⟩ :=
          removeAll_rest s.reassembler.activeEntries.length s
        refine ⟨⟨config, remote, received⟩, removeAll_repairs _ _, ?_,
          removeAll_limits _ _, ?_, Or.inr (slotCountsFor_eq_some laid), ?_⟩
        · intro safe
          have removed := removeAll_safe s.reassembler.activeEntries.length safe
          have idle := removeAll_idle (Nat.le_refl
            s.reassembler.activeEntries.length)
          have relaid := removed.well.relaid idle counts s.config.display.width
            s.config.display.height
          rw [← removed.well.bytes_eq_zero idle] at relaid
          exact ⟨relaid, removed.copies⟩
        · unfold FrameFits
          dsimp only
          rw [config]
          exact ⟨rfl, rfl⟩
        · -- Entries are dropped only where the layout does not fit the display.
          rintro (fits | idle)
          · have wide := s.config.display.width_pos
            refine absurd ⟨fits.1, fits.2, ?_⟩ differs
            rw [fits.1]
            omega
          · rw [idle]
            exact ⟨rfl, rfl⟩

theorem expireFrom_acts (now : Nat) (timeoutNs : Nat → Nat) (fuel index : Nat)
    (s : ReceiverState) :
    Acts zstd taken s (expireFrom now timeoutNs fuel index s) := by
  induction fuel generalizing index s with
  | zero => exact .refl
  | succ fuel ih =>
      unfold expireFrom
      split
      · exact .refl
      · split
        · exact (expireEntry_acts index).trans (ih _ _)
        · exact ih _ _

theorem expireStaleEntries_acts (now : Nat) (timeoutNs : Nat → Nat) :
    Acts zstd taken s (s.expireStaleEntries now timeoutNs) :=
  expireFrom_acts _ _ _ _ _

/-! ## Finding an entry -/

theorem Safe.findEntryIndex_none (safe : s.Safe)
    (missing : s.reassembler.findEntryIndex tile = none) :
    s.reassembler.table.slot tile = none := by
  unfold TileReassembler.findEntryIndex at missing
  split at missing
  next beyond =>
      rw [safe.well.indexed.slot_eq_none, safe.well.indexed.find_eq_none]
      rintro entry member rfl
      have inside := safe.well.numbered entry member
      omega
  next => exact missing

theorem Safe.findEntryIndex_some (safe : s.Safe)
    (found : s.reassembler.findEntryIndex tile = some index) :
    ∃ entry, s.reassembler.activeEntries[index]? = some entry ∧
      entry.tile = tile ∧ s.reassembler.entryFor tile = some entry := by
  unfold TileReassembler.findEntryIndex at found
  split at found
  · cases found
  · obtain ⟨entry, stored, own⟩ := safe.well.indexed.getElem_of_slot found
    refine ⟨entry, stored, own, ?_⟩
    exact safe.well.indexed.find_eq_some.mpr ⟨List.mem_of_getElem? stored, own⟩

theorem Safe.lookup (safe : s.Safe) :
    (s.reassembler.findEntryIndex tile).bind
        (fun index => s.reassembler.activeEntries[index]?) =
      s.reassembler.entryFor tile := by
  cases found : s.reassembler.findEntryIndex tile with
  | none =>
      have missing := safe.findEntryIndex_none found
      rw [safe.well.indexed.slot_eq_none] at missing
      exact missing.symm
  | some index =>
      obtain ⟨entry, stored, -, held⟩ := safe.findEntryIndex_some found
      rw [Option.bind_some, stored, held]

theorem Safe.slot_removeEntry (safe : s.Safe) {entry : Entry}
    {cause : RetireCause}
    (stored : s.reassembler.activeEntries[index]? = some entry)
    {other : WireTile}
    (free : other = entry.tile ∨ s.reassembler.table.slot other = none) :
    (s.removeEntry index cause).reassembler.table.slot other = none := by
  have after : (s.removeEntry index cause).Safe := safe.removeEntry stored
  rw [after.well.indexed.slot_eq_none]
  rw [removeEntry_eq stored]
  have felt := safe.well.entryFor_removed stored
    (TileReassembler.removeEntry_removed stored) other
  rw [TileReassembler.entryFor] at felt
  rw [felt]
  split
  · rfl
  · rename_i apart
    rcases free with own | none
    · exact absurd own apart
    · exact safe.well.indexed.slot_eq_none.mp none

/-! ## Opening an entry -/

theorem evictWhileOver_acts (payloadSize count : Nat) (safe : s.Safe)
    (free : s.reassembler.table.slot tile = none) :
    Acts zstd taken s (evictWhileOver payloadSize count s) ∧
      (evictWhileOver payloadSize count s).reassembler.table.slot tile =
        none := by
  induction count generalizing s with
  | zero => exact ⟨.refl, free⟩
  | succ count ih =>
      unfold evictWhileOver
      split
      · have acts : Acts zstd taken s
            (s.evictEntryForBudget s.reassembler.oldestIndex) :=
          evictEntryForBudget_acts _
        have stillFree : (s.evictEntryForBudget
            s.reassembler.oldestIndex).reassembler.table.slot tile = none := by
          unfold evictEntryForBudget abandonEntry
          split
          · exact free
          · rename_i entry stored
            exact Safe.slot_removeEntry (s := s.queueEntryRepair entry)
              (safe.repairs _) stored (Or.inr free)
        obtain ⟨later, kept⟩ := ih (acts.safe safe) stillFree
        exact ⟨acts.trans later, kept⟩
      · exact ⟨.refl, free⟩

theorem ensureBudget_acts (payloadSize : Nat) (safe : s.Safe)
    (free : s.reassembler.table.slot tile = none) :
    Acts zstd taken s (s.ensureBudget payloadSize).1 ∧
      (s.ensureBudget payloadSize).1.reassembler.table.slot tile = none ∧
      ((s.ensureBudget payloadSize).2 = true →
        (s.ensureBudget payloadSize).1.reassembler.overBudget payloadSize =
          false) := by
  unfold ensureBudget
  split
  · exact ⟨.refl, free, nofun⟩
  · obtain ⟨acts, kept⟩ : Acts zstd taken s _ ∧ _ := evictWhileOver_acts
      payloadSize s.reassembler.activeEntries.length safe free
    exact ⟨acts, kept, fun room => by simpa using room⟩

/-- A packet's tile has a slot, and its payload fits an empty reassembler. -/
structure Roomy (header : UdpTilePacketDecoded) (s : ReceiverState) : Prop where
  bytes : header.tilePayloadSize ≤ s.reassembler.maxActivePayloadBytes
  entries : 0 < s.reassembler.maxActiveEntries
  slot : header.tile.tileId < s.reassembler.slotCount header.tile.size

theorem Acts.roomy {t : ReceiverState} (acts : Acts zstd taken s t)
    (roomy : Roomy header s) : Roomy header t := by
  obtain ⟨entries, bytes⟩ := Prod.mk.inj acts.limits_eq
  obtain ⟨slots, -⟩ := Prod.mk.inj acts.layout_eq
  exact ⟨bytes ▸ roomy.bytes, entries ▸ roomy.entries, slots ▸ roomy.slot⟩

theorem foldl_choice_lt {bound : Nat} {better : Nat → Nat → Prop}
    [DecidableRel better] {indices : List Nat} {best : Nat}
    (inside : ∀ i ∈ indices, i < bound) (below : best < bound) :
    indices.foldl (fun oldest i => if better i oldest then i else oldest) best <
      bound := by
  induction indices generalizing best with
  | nil => exact below
  | cons i rest ih =>
      refine ih (fun j member => inside j (List.mem_cons_of_mem _ member)) ?_
      dsimp only
      split
      · exact inside i List.mem_cons_self
      · exact below

theorem oldestIndex_lt {r : TileReassembler} (busy : r.activeEntries ≠ []) :
    r.oldestIndex < r.activeEntries.length :=
  foldl_choice_lt (fun _ => List.mem_range.mp) (List.length_pos_iff.mpr busy)

theorem Safe.room_of_idle (safe : s.Safe) {payloadSize : Nat}
    (bytes : payloadSize ≤ s.reassembler.maxActivePayloadBytes)
    (entries : 0 < s.reassembler.maxActiveEntries)
    (idle : s.reassembler.activeEntries = []) :
    s.reassembler.overBudget payloadSize = false := by
  simp only [TileReassembler.overBudget, Bool.or_eq_false_iff,
    decide_eq_false_iff_not, safe.well.bytes_eq_zero idle, idle,
    List.length_nil]
  omega

theorem evictWhileOver_room {payloadSize count : Nat} (safe : s.Safe)
    (bytes : payloadSize ≤ s.reassembler.maxActivePayloadBytes)
    (entries : 0 < s.reassembler.maxActiveEntries)
    (enough : s.reassembler.activeEntries.length ≤ count) :
    (evictWhileOver payloadSize count s).reassembler.overBudget payloadSize =
      false := by
  induction count generalizing s with
  | zero =>
      exact safe.room_of_idle bytes entries
        (List.length_eq_zero_iff.mp (Nat.le_zero.mp enough))
  | succ count ih =>
      unfold evictWhileOver
      split
      · rename_i exceeds
        have inside := oldestIndex_lt exceeds.1
        obtain ⟨entry, stored⟩ : ∃ entry,
            s.reassembler.activeEntries[s.reassembler.oldestIndex]? =
              some entry := ⟨_, List.getElem?_eq_getElem inside⟩
        have acts : Acts Zstd.stored none s
            (s.evictEntryForBudget s.reassembler.oldestIndex) :=
          evictEntryForBudget_acts _
        obtain ⟨sameEntries, sameBytes⟩ := Prod.mk.inj acts.limits_eq
        refine ih (acts.safe safe) (sameBytes ▸ bytes) (sameEntries ▸ entries) ?_
        unfold evictEntryForBudget abandonEntry
        rw [stored]
        have shorter := removeEntry_length
          (s := s.queueEntryRepair entry) .evicted inside
        change _ = s.reassembler.activeEntries.length at shorter
        dsimp only
        omega
      · rename_i settled
        by_cases idle : s.reassembler.activeEntries = []
        · exact safe.room_of_idle bytes entries idle
        · exact Bool.eq_false_iff.mpr fun exceeds => settled ⟨idle, exceeds⟩

theorem ensureBudget_room {payloadSize : Nat} (safe : s.Safe)
    (bytes : payloadSize ≤ s.reassembler.maxActivePayloadBytes)
    (entries : 0 < s.reassembler.maxActiveEntries) :
    (s.ensureBudget payloadSize).2 = true := by
  unfold ensureBudget
  rw [if_neg (Nat.not_lt_of_le bytes)]
  dsimp only
  rw [evictWhileOver_room safe bytes entries (Nat.le_refl _)]
  rfl

theorem replaceEntry_acts {header : UdpTilePacketDecoded} (safe : s.Safe)
    (current : header.contentEpoch = s.remote.epoch) {found : Option Nat}
    (absent : found = none → s.reassembler.table.slot header.tile = none)
    (present : ∀ index, found = some index →
      ∃ entry, s.reassembler.activeEntries[index]? = some entry ∧
        entry.tile = header.tile ∧ matchesHeader header entry = false ∧
        outdated header entry = false) :
    Acts zstd (some header) s (s.replaceEntry header found) ∧
      (s.replaceEntry header found).reassembler.table.slot header.tile =
        none := by
  cases found with
  | none => exact ⟨.refl, absent rfl⟩
  | some index =>
      obtain ⟨entry, stored, own, mismatch, notOutdated⟩ := present index rfl
      unfold replaceEntry
      dsimp only
      rw [stored]
      refine ⟨(Act.supersede rfl stored own mismatch notOutdated current).acts, ?_⟩
      exact Safe.slot_removeEntry (s := s.clearEntryRetxInflight entry)
        (safe.repairs _) stored (Or.inl own.symm)

/-- What opening an entry leaves: no entry, for want of room or of a slot, or a
new one at the end. -/
theorem openEntry_cases (s : ReceiverState) (header : UdpTilePacketDecoded)
    (found : Option Nat) (now : Nat) :
    ((((s.replaceEntry header found).ensureBudget
          header.tilePayloadSize).2 = false ∨
        ((s.replaceEntry header found).ensureBudget
          header.tilePayloadSize).1.reassembler.slotCount header.tile.size ≤
            header.tile.tileId) ∧
      s.openEntry header found now =
        (((s.replaceEntry header found).ensureBudget
          header.tilePayloadSize).1, none)) ∨
      ∃ storage, ((s.replaceEntry header found).ensureBudget
          header.tilePayloadSize).2 = true ∧
        header.tile.tileId < ((s.replaceEntry header found).ensureBudget
          header.tilePayloadSize).1.reassembler.slotCount header.tile.size ∧
        s.openEntry header found now =
          (((s.replaceEntry header found).ensureBudget
            header.tilePayloadSize).1.opened header now storage,
          some ((s.replaceEntry header found).ensureBudget
            header.tilePayloadSize).1.reassembler.activeEntries.length) := by
  unfold openEntry
  generalize (s.replaceEntry header found).ensureBudget header.tilePayloadSize =
    budget
  obtain ⟨t, room⟩ := budget
  cases room with
  | false => exact Or.inl ⟨Or.inl rfl, rfl⟩
  | true =>
      dsimp only
      rw [if_neg (by simp)]
      unfold TileReassembler.activateEntry
      split
      next full =>
          left
          split at full
          · rename_i beyond
            exact ⟨Or.inr beyond, rfl⟩
          · cases full
      next reassembler index activated =>
          right
          split at activated
          · cases activated
          · rename_i numbered
            simp only [Option.some.injEq, Prod.mk.injEq] at activated
            obtain ⟨rfl, rfl⟩ := activated
            refine ⟨t.reassembler.recycledEntries.getLastD .blank, rfl,
              Nat.lt_of_not_le numbered, ?_⟩
            unfold opened TileReassembler.modifyEntry
            dsimp only
            rw [SlotTable.modify_push _ rfl]
            rfl

structure Prepared (zstd : Zstd) (header : UdpTilePacketDecoded)
    (s : ReceiverState) (result : ReceiverState × Option Nat) : Prop where
  acts : Acts zstd (some header) s result.1
  entry : ∀ index, result.2 = some index →
    ∃ entry, result.1.reassembler.activeEntries[index]? = some entry ∧
      entry.tile = header.tile ∧ matchesHeader header entry = true
  opens : Roomy header s → result.2 ≠ none
  source : ∀ index entry, result.2 = some index →
    result.1.reassembler.activeEntries[index]? = some entry →
      result.1 = s ∨
        (∃ (now : Nat) (storage : Entry), entry = beginEntry header now
          { storage with tile := header.tile }) ∧
        ∀ held, s.reassembler.entryFor header.tile = some held →
          matchesHeader header held = true →
            ∃ record ∈ result.1.trace.retired.drop s.trace.retired.length,
              record.entry = held ∧ record.cause = .timedOut

theorem opened_last (s : ReceiverState) (header : UdpTilePacketDecoded)
    (now : Nat) (storage : Entry) :
    (s.opened header now storage).reassembler.activeEntries[
        s.reassembler.activeEntries.length]? =
      some (beginEntry header now { storage with tile := header.tile }) :=
  List.getElem?_concat_length

section Packet

variable {packet : List UInt8} {header : UdpTilePacketDecoded}

theorem openEntry_prepared (safe : s.Safe)
    (checked : Checked zstd s.config packet header)
    (current : header.contentEpoch = s.remote.epoch) (found : Option Nat)
    (now : Nat)
    (absent : found = none → s.reassembler.table.slot header.tile = none)
    (present : ∀ index, found = some index →
      ∃ entry, s.reassembler.activeEntries[index]? = some entry ∧
        entry.tile = header.tile ∧ matchesHeader header entry = false ∧
        outdated header entry = false) :
    Prepared zstd header s (s.openEntry header found now) := by
  obtain ⟨replaced, freed⟩ : Acts zstd (some header) s _ ∧ _ :=
    replaceEntry_acts safe current absent present
  obtain ⟨made, free, room⟩ : Acts zstd (some header) _ _ ∧ _ :=
    ensureBudget_acts header.tilePayloadSize (replaced.safe safe) freed
  have before := replaced.trans made
  obtain ⟨config, remote, -⟩ := before.rest
  rcases s.openEntry_cases header found now with ⟨reason, refused⟩ | ⟨storage,
    ok, numbered, opened⟩
  · rw [refused]
    refine ⟨before, nofun, fun roomy => ?_, nofun⟩
    have after := replaced.roomy roomy
    rcases reason with full | beyond
    · rw [ensureBudget_room (replaced.safe safe) after.bytes after.entries]
        at full
      cases full
    · exact absurd (before.roomy roomy).slot (Nat.not_lt_of_le beyond)
  · rw [opened]
    refine ⟨before.trans (Act.activate rfl storage (config ▸ checked)
      (current.trans (congrArg RemoteContent.epoch remote).symm) free numbered
      (room ok)).acts, ?_, fun _ => nofun, ?_⟩
    · rintro index same
      cases same
      exact ⟨_, opened_last _ _ _ _, rfl, by simp [matchesHeader, beginEntry]⟩
    · intro index entry same stored
      cases same
      rw [opened_last, Option.some.injEq] at stored
      refine Or.inr ⟨⟨now, storage, stored.symm⟩, ?_⟩
      -- Nothing that fits the packet was held when an entry was opened for it.
      intro held lookup fits
      exfalso
      cases found with
      | none =>
          have missing := safe.well.indexed.slot_eq_none.mp (absent rfl)
          rw [TileReassembler.entryFor, missing] at lookup
          cases lookup
      | some position =>
          obtain ⟨other, storedOther, own, mismatch, -⟩ := present position rfl
          have unique := safe.well.indexed.find_eq_some.mpr
            ⟨List.mem_of_getElem? storedOther, own⟩
          rw [TileReassembler.entryFor, unique, Option.some.injEq] at lookup
          rw [← lookup, mismatch] at fits
          cases fits

theorem entryForPacket_prepared {arrival : Arrival} (safe : s.Safe)
    (checked : Checked zstd s.config packet header)
    (current : header.contentEpoch = s.remote.epoch)
    (notOutdated : ∀ entry, s.reassembler.entryFor header.tile = some entry →
      outdated header entry = false) :
    Prepared zstd header s (s.entryForPacket header arrival
      (s.reassembler.findEntryIndex header.tile)) := by
  unfold entryForPacket
  cases found : s.reassembler.findEntryIndex header.tile with
  | none =>
      exact openEntry_prepared safe checked current none arrival.now
        (fun _ => safe.findEntryIndex_none found) nofun
  | some index =>
      obtain ⟨entry, stored, own, held⟩ := safe.findEntryIndex_some found
      dsimp only
      rw [stored]
      dsimp only
      split
      next fits =>
          split
          next =>
              -- A late packet starts its tile again.
              have expired : Acts zstd (some header) s (s.expireEntry index) :=
                expireEntry_acts index
              obtain ⟨config, remote, -⟩ := expired.rest
              have freed : (s.expireEntry index).reassembler.table.slot
                  header.tile = none := by
                unfold expireEntry abandonEntry
                rw [stored]
                exact Safe.slot_removeEntry (s := s.queueEntryRepair entry)
                  (safe.repairs _) stored (Or.inl own.symm)
              obtain ⟨acts, prepared, opens, source⟩ := openEntry_prepared
                (expired.safe safe) (config ▸ checked)
                (current.trans (congrArg RemoteContent.epoch remote).symm) none
                arrival.now (fun _ => freed) nofun
              refine ⟨expired.trans acts, prepared,
                fun roomy => opens (expired.roomy roomy), ?_⟩
              intro position opened same storedLater
              obtain ⟨added, grown⟩ := acts.grows
              have recorded : (s.expireEntry index).trace.retired =
                  s.trace.retired ++ [⟨entry, .timedOut, s.config.display,
                    s.receivedGeneration,
                    (s.queueEntryRepair entry).repairs⟩] := by
                unfold expireEntry abandonEntry
                rw [stored]
                dsimp only
                rw [removeEntry_eq (s := s.queueEntryRepair entry) stored]
                rfl
              have noted : ∀ other,
                  s.reassembler.entryFor header.tile = some other →
                    matchesHeader header other = true → ∃ record ∈
                      ((s.expireEntry index).openEntry header none
                        arrival.now).1.trace.retired.drop
                          s.trace.retired.length,
                      record.entry = other ∧ record.cause = .timedOut := by
                intro other lookup _
                rw [held, Option.some.injEq] at lookup
                rw [grown, recorded, List.append_assoc, List.drop_left]
                exact ⟨_, List.mem_cons_self, lookup, rfl⟩
              right
              rcases source position opened same storedLater with
                unchanged | ⟨fresh, -⟩
              · -- The expired entry left its place to the new one.
                rw [unchanged] at storedLater
                obtain ⟨other, storedOther, ownOther, -⟩ :=
                  prepared position same
                rw [unchanged] at storedOther
                have gone := (expired.safe safe).well.indexed.slot_eq_none.mp
                  freed
                rw [(expired.safe safe).well.indexed.find_eq_some.mpr
                  ⟨List.mem_of_getElem? storedOther, ownOther⟩] at gone
                cases gone
              · exact ⟨fresh, noted⟩
          next =>
              refine ⟨.refl, ?_, fun _ => nofun, fun _ _ _ _ => Or.inl rfl⟩
              intro position same
              cases same
              exact ⟨entry, stored, own, fits⟩
      next mismatch =>
          refine openEntry_prepared safe checked current (some index)
            arrival.now nofun ?_
          intro position same
          cases same
          exact ⟨entry, stored, own, by simpa using mismatch,
            notOutdated entry held⟩

/-! ## Taking the fragment -/

variable {index : Nat} {entry : Entry}

theorem updateEntry_stored
    (stored : s.reassembler.activeEntries[index]? = some entry)
    (change : Entry → Entry) :
    (s.updateEntry index change).reassembler.activeEntries[index]? =
      some (change entry) := by
  show (s.reassembler.activeEntries.modify index change)[index]? = _
  rw [List.getElem?_modify, stored]
  simp

theorem finishEntry_acts
    (stored : s.reassembler.activeEntries[index]? = some entry)
    (own : entry.tile = header.tile) :
    Acts zstd (some header) s (finishEntry zstd s index entry).1 := by
  unfold finishEntry
  dsimp only
  split
  · split
    · exact abandonEntry_acts stored own rfl
    · exact (Act.complete rfl stored own).acts
  · split
    · exact abandonEntry_acts stored own rfl
    · exact (Act.complete rfl stored own).acts

theorem noteMetadata_rest (header : UdpTilePacketDecoded) (entry : Entry) :
    (noteMetadata header entry).generation = entry.generation ∧
      (noteMetadata header entry).contentEpoch = entry.contentEpoch ∧
      (noteMetadata header entry).receivedBitmap = entry.receivedBitmap ∧
      (noteMetadata header entry).compressedSize = entry.compressedSize := by
  unfold noteMetadata
  split <;> exact ⟨rfl, rfl, rfl, rfl⟩

theorem takeFragment_acts (safe : s.Safe)
    (checked : Checked zstd s.config packet header)
    (stored : s.reassembler.activeEntries[index]? = some entry)
    (own : entry.tile = header.tile) :
    Acts zstd (some header) s (takeFragment zstd s index header packet).1 := by
  unfold takeFragment
  rw [stored]
  dsimp only
  split
  · exact abandonEntry_acts stored own rfl
  · -- From here on the entry has the metadata of a first fragment.
    have noted : Acts zstd (some header) s
        (s.updateEntry index (noteMetadata header)) :=
      (Act.note rfl stored own).acts
    have storedNoted := updateEntry_stored stored (noteMetadata header)
    have ownNoted := (noteMetadata_tile header entry).trans own
    split
    · exact noted
    · rename_i agrees
      push Not at agrees
      obtain ⟨count, size, -⟩ := agrees
      have sound := (noted.safe safe).well.sound _
        (List.mem_of_getElem? storedNoted)
      have inside : header.tilePktId * s.config.payloadTarget +
          header.payloadSize ≤ (noteMetadata header entry).compressed.length := by
        rw [sound.buffer, size]
        exact checked.inside
      have touched : Acts zstd (some header) s
          ((s.updateEntry index (noteMetadata header)).noteCopy
            ⟨header.tilePktId * s.config.payloadTarget, header.payloadSize,
              (noteMetadata header entry).compressed.length⟩) :=
        noted.trans (Act.touch inside).acts
      split
      · rename_i fresh
        have copied := touched.trans (Act.copy
          (s := (s.updateEntry index (noteMetadata header)).noteCopy _)
          rfl storedNoted ownNoted checked count size (by simpa using fresh)).acts
        split
        · exact copied
        · exact copied.trans (finishEntry_acts
            (updateEntry_stored storedNoted _) ownNoted)
      · split
        · exact touched.trans (abandonEntry_acts storedNoted ownNoted rfl)
        · split
          · exact touched
          · exact touched.trans (finishEntry_acts storedNoted ownNoted)

theorem finishEntry_completed {completed : ReassembledTile}
    (finished : (finishEntry zstd s index entry).2 = some completed) :
    ∃ tileBytes, completed = reassembled entry tileBytes ∧
      tileBytes.length = entry.tile.size.bytes := by
  unfold finishEntry at finished
  dsimp only at finished
  split at finished
  · split at finished
    · cases finished
    · rename_i tileBytes decompressed
      refine ⟨tileBytes, (Option.some.inj finished).symm, ?_⟩
      unfold Zstd.wdDecompress at decompressed
      split at decompressed
      · cases decompressed
      · split at decompressed
        · cases decompressed
        · split at decompressed
          · rename_i length
            cases Option.some.inj decompressed
            exact length
          · cases decompressed
  · split at finished
    · cases finished
    · rename_i length
      exact ⟨_, (Option.some.inj finished).symm, by simpa using length⟩

theorem takeFragment_completed {completed : ReassembledTile}
    (stored : s.reassembler.activeEntries[index]? = some entry)
    (finished : (takeFragment zstd s index header packet).2 = some completed) :
    completed.wire = entry.tile ∧ completed.generation = entry.generation ∧
      completed.contentEpoch = entry.contentEpoch ∧
      completed.tileBytes.length = completed.wire.size.bytes := by
  obtain ⟨generation, epoch, -, -⟩ := noteMetadata_rest header entry
  have tile := noteMetadata_tile header entry
  have settle : ∀ {t : ReceiverState} {other : Entry},
      (finishEntry zstd t index other).2 = some completed →
      other.tile = entry.tile → other.generation = entry.generation →
      other.contentEpoch = entry.contentEpoch →
      completed.wire = entry.tile ∧ completed.generation = entry.generation ∧
        completed.contentEpoch = entry.contentEpoch ∧
        completed.tileBytes.length = completed.wire.size.bytes := by
    intro t other done sameTile sameGeneration sameEpoch
    obtain ⟨tileBytes, rfl, length⟩ := finishEntry_completed done
    exact ⟨sameTile, sameGeneration, sameEpoch, length⟩
  unfold takeFragment at finished
  rw [stored] at finished
  dsimp only at finished
  split at finished
  · cases finished
  · split at finished
    · cases finished
    · split at finished
      · split at finished
        · cases finished
        · exact settle finished tile generation epoch
      · split at finished
        · cases finished
        · split at finished
          · cases finished
          · exact settle finished tile generation epoch

end Packet

/-! ## A packet -/

theorem admitPacket_eq_some {packet : List UInt8}
    (admitted : admitPacket zstd s packet = some header) :
    Checked zstd s.config packet header ∧
      ClientState.wantsGeneration s.receivedGeneration
        (forEachBaseTileCovered s.config.display header.tile)
        header.tileGeneration = true := by
  unfold admitPacket at admitted
  split at admitted
  · cases admitted
  · rename_i decoded
    split_ifs at admitted with invalid wanted
    cases Option.some.inj admitted
    exact ⟨⟨decoded, validate_eq_valid_iff.mp (by simpa using invalid)⟩, wanted⟩

/-- The ways through `process_udp_packet` for a packet that was admitted. -/
inductive Taken (zstd : Zstd) (header : UdpTilePacketDecoded)
    (s : ReceiverState) (arrival : Arrival) :
    ReceiverState × Option ReassembledTile → Prop
  | unlaid (refused : s.configureEntrySlots = none) :
      Taken zstd header s arrival (s, none)
  | late {t : ReceiverState} {entry : Entry} (laid : Laid s t)
      (held : t.reassembler.entryFor header.tile = some entry)
      (older : outdated header entry = true) :
      Taken zstd header s arrival (t, none)
  | full {t u : ReceiverState} (laid : Laid s t)
      (notOutdated : ∀ entry, t.reassembler.entryFor header.tile = some entry →
        outdated header entry = false)
      (cramped : ¬Roomy header t) (acts : Acts zstd (some header) t u) :
      Taken zstd header s arrival (u, none)
  | fragment {t u : ReceiverState} {index : Nat} {entry : Entry}
      (laid : Laid s t)
      (notOutdated : ∀ entry, t.reassembler.entryFor header.tile = some entry →
        outdated header entry = false)
      (prepared : t.entryForPacket header arrival
        (t.reassembler.findEntryIndex header.tile) = (u, some index))
      (acts : Acts zstd (some header) t u)
      (stored : u.reassembler.activeEntries[index]? = some entry)
      (own : entry.tile = header.tile)
      (fits : matchesHeader header entry = true) :
      Taken zstd header s arrival
        (takeFragment zstd u index header arrival.bytes)

variable {arrival : Arrival}

theorem processUdpPacket_taken (safe : s.Safe)
    (admitted : admitPacket zstd s arrival.bytes = some header)
    (current : header.contentEpoch = s.remote.epoch) :
    Taken zstd header s arrival (processUdpPacket zstd s arrival) := by
  obtain ⟨checked, -⟩ := admitPacket_eq_some admitted
  unfold processUdpPacket
  rw [admitted]
  dsimp only
  cases configured : s.configureEntrySlots with
  | none => exact .unlaid configured
  | some t =>
      have laid := configureEntrySlots_laid configured
      obtain ⟨config, remote, -⟩ := laid.rest
      have safeLaid := laid.safe safe
      have lookup : (t.reassembler.findEntryIndex header.tile).bind
          (fun index => t.reassembler.activeEntries[index]?) =
            t.reassembler.entryFor header.tile := safeLaid.lookup
      dsimp only
      rw [lookup]
      split
      next late =>
          obtain ⟨entry, held, older⟩ := (Option.any_eq_true _ _).mp late
          exact .late laid held older
      next fresh =>
          have notOutdated : ∀ entry,
              t.reassembler.entryFor header.tile = some entry →
                outdated header entry = false := by
            intro entry held
            rw [held] at fresh
            simpa using fresh
          have prepared : Prepared zstd header t (t.entryForPacket header arrival
              (t.reassembler.findEntryIndex header.tile)) :=
            entryForPacket_prepared safeLaid (config ▸ checked)
              (current.trans (congrArg RemoteContent.epoch remote).symm)
              notOutdated
          cases result : t.entryForPacket header arrival
              (t.reassembler.findEntryIndex header.tile) with
          | mk u position =>
              rw [result] at prepared
              cases position with
              | none =>
                  exact .full laid notOutdated
                    (fun roomy => prepared.opens roomy rfl) prepared.acts
              | some index =>
                  obtain ⟨entry, stored, own, fits⟩ := prepared.entry index rfl
                  exact .fragment laid notOutdated result prepared.acts stored
                    own fits

variable {result : ReceiverState × Option ReassembledTile}

theorem Taken.acts (safe : s.Safe)
    (checked : Checked zstd s.config arrival.bytes header)
    (taken : Taken zstd header s arrival result) :
    result.1 = s ∨
      ∃ t, Laid s t ∧ Acts zstd (some header) t result.1 := by
  cases taken with
  | unlaid refused => exact Or.inl rfl
  | @late t entry laid held older => exact Or.inr ⟨t, laid, .refl⟩
  | @full t u laid notOutdated cramped acts => exact Or.inr ⟨t, laid, acts⟩
  | @fragment t u index entry laid notOutdated prepared acts stored own fits =>
      obtain ⟨config, -, -⟩ := acts.rest
      refine Or.inr ⟨t, laid, acts.trans (takeFragment_acts
        (acts.safe (laid.safe safe)) ?_ stored own)⟩
      rw [config, laid.rest.1]
      exact checked

theorem Taken.completed (taken : Taken zstd header s arrival result)
    {tile : ReassembledTile} (finished : result.2 = some tile) :
    tile.wire = header.tile ∧ tile.generation = header.tileGeneration ∧
      tile.contentEpoch = header.contentEpoch ∧
      tile.tileBytes.length = tile.wire.size.bytes := by
  cases taken with
  | unlaid => cases finished
  | late => cases finished
  | full => cases finished
  | fragment laid notOutdated prepared acts stored own fits =>
      simp only [matchesHeader, Bool.and_eq_true, decide_eq_true_eq] at fits
      obtain ⟨wire, generation, epoch, length⟩ :=
        takeFragment_completed stored finished
      exact ⟨wire.trans own, generation.trans fits.2, epoch.trans fits.1, length⟩

theorem Taken.keep (safe : s.Safe)
    (checked : Checked zstd s.config arrival.bytes header)
    (taken : Taken zstd header s arrival result) {P : ReceiverState → Prop}
    (laying : ∀ {t}, Laid s t → P t)
    (kept : ∀ {t t'}, Act zstd (some header) t t' → P t → P t') (holds : P s) :
    P result.1 := by
  rcases taken.acts safe checked with same | ⟨t, laid, acts⟩
  · rw [same]
    exact holds
  · exact acts.keep kept (laying laid)

theorem processUdpPacket_refused
    (refused : admitPacket zstd s arrival.bytes = none) :
    processUdpPacket zstd s arrival = (s, none) := by
  rw [processUdpPacket, refused]

end ReceiverState

end WayDisplay.Client
