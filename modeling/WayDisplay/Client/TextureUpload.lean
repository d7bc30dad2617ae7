import WayDisplay.Client.Geometry
import WayDisplay.Client.RenderPlanning
import WayDisplay.Common.AsyncTcpPolicy
import WayDisplay.Foundation.MergeRuns

/-!
How the dirty rectangles of a pass are uploaded (`render_planning.cpp`).

The rectangles are clipped to the frame and merged along rows, then along
columns; both passes are the same merge of neighbours.  The plan then uploads
the rectangles, their bounds or the whole frame, whichever is estimated to be
cheapest.
-/

namespace WayDisplay.Client

open Common Foundation

/-! ## Coalescing -/

def before3 (a b : Nat × Nat × Nat) : Bool :=
  if a.1 ≠ b.1 then a.1 < b.1
  else if a.2.1 ≠ b.2.1 then a.2.1 < b.2.1
  else a.2.2 < b.2.2

def rowBefore (a b : Rect) : Bool :=
  before3 (a.y, a.height, a.x) (b.y, b.height, b.x)

def columnBefore (a b : Rect) : Bool :=
  before3 (a.x, a.width, a.y) (b.x, b.width, b.y)

def joinsRow (last rect : Rect) : Bool :=
  last.y = rect.y && last.height = rect.height && rect.x ≤ last.x + last.width

def mergeRow (last rect : Rect) : Rect :=
  { last with
    width := min (max (last.x + last.width) (rect.x + rect.width) - last.x)
      uint16Limit }

def joinsColumn (last rect : Rect) : Bool :=
  last.x = rect.x && last.width = rect.width && rect.y ≤ last.y + last.height

def mergeColumn (last rect : Rect) : Rect :=
  { last with
    height := min (max (last.y + last.height) (rect.y + rect.height) - last.y)
      uint16Limit }

/-- `coalesce_dirty_texture_rects`, with any sorts by the two orders. -/
def coalesceDirtyTextureRects (rowSort : Sorting rowBefore)
    (columnSort : Sorting columnBefore) (frameWidth frameHeight : Nat)
    (rects : List Rect) : List Rect :=
  let clamped := rects.filterMap (clampDirtyRect frameWidth frameHeight)
  let horizontal := mergeRuns joinsRow mergeRow (rowSort.sort clamped)
  if horizontal.length > 1 then
    mergeRuns joinsColumn mergeColumn (columnSort.sort horizontal)
  else horizontal

structure InFrame (frameWidth frameHeight : Nat) (rect : Rect) : Prop where
  right : rect.x + rect.width ≤ frameWidth
  bottom : rect.y + rect.height ≤ frameHeight

theorem before3_eq_false {a b : Nat × Nat × Nat} :
    before3 b a = false ↔
      a.1 < b.1 ∨ a.1 = b.1 ∧ (a.2.1 < b.2.1 ∨ a.2.1 = b.2.1 ∧ a.2.2 ≤ b.2.2) := by
  rw [before3]
  split_ifs <;> simp only [decide_eq_false_iff_not] <;> omega

section Merge

variable {frameWidth frameHeight : Nat}

theorem rows_mergeable (narrow : frameWidth ≤ uint16Limit) :
    Mergeable joinsRow mergeRow rowBefore (InFrame frameWidth frameHeight)
      fun rect (point : Point) => rect.contains point.1 point.2 = true where
  irrefl a := before3_eq_false.mpr (by omega)
  keepsLeft _ _ _ := rfl
  keepsRight _ _ _ := rfl
  staysValid a b validA validB after joined := by
    have rightA := validA.right
    have rightB := validB.right
    refine ⟨?_, validA.bottom⟩
    simp only [mergeRow]
    omega
  coversBoth a b validA validB after joined point := by
    have rightA := validA.right
    have rightB := validB.right
    have order := before3_eq_false.mp after
    simp only [joinsRow, Bool.and_eq_true, decide_eq_true_eq] at joined
    rw [Rect.contains_iff, Rect.contains_iff, Rect.contains_iff]
    simp only [mergeRow] at order ⊢
    omega
  apart a b c afterB afterC apart := by
    have orderB := before3_eq_false.mp afterB
    have orderC := before3_eq_false.mp afterC
    rw [← Bool.not_eq_true] at apart ⊢
    simp only [joinsRow, Bool.and_eq_true, decide_eq_true_eq] at *
    omega

theorem columns_mergeable (low : frameHeight ≤ uint16Limit) :
    Mergeable joinsColumn mergeColumn columnBefore
      (InFrame frameWidth frameHeight)
      fun rect (point : Point) => rect.contains point.1 point.2 = true where
  irrefl a := before3_eq_false.mpr (by omega)
  keepsLeft _ _ _ := rfl
  keepsRight _ _ _ := rfl
  staysValid a b validA validB after joined := by
    have bottomA := validA.bottom
    have bottomB := validB.bottom
    refine ⟨validA.right, ?_⟩
    simp only [mergeColumn]
    omega
  coversBoth a b validA validB after joined point := by
    have bottomA := validA.bottom
    have bottomB := validB.bottom
    have order := before3_eq_false.mp after
    simp only [joinsColumn, Bool.and_eq_true, decide_eq_true_eq] at joined
    rw [Rect.contains_iff, Rect.contains_iff, Rect.contains_iff]
    simp only [mergeColumn] at order ⊢
    omega
  apart a b c afterB afterC apart := by
    have orderB := before3_eq_false.mp afterB
    have orderC := before3_eq_false.mp afterC
    rw [← Bool.not_eq_true] at apart ⊢
    simp only [joinsColumn, Bool.and_eq_true, decide_eq_true_eq] at *
    omega

theorem clampDirtyRect_inFrame {rect visible : Rect}
    (clamped : clampDirtyRect frameWidth frameHeight rect = some visible) :
    InFrame frameWidth frameHeight visible := by
  rw [clampDirtyRect] at clamped
  split at clamped
  · cases clamped
  · obtain rfl := Option.some.inj clamped
    constructor <;> dsimp only <;> omega

theorem clampDirtyRect_contains (narrow : frameWidth ≤ uint16Limit)
    (low : frameHeight ≤ uint16Limit) (rect : Rect) (point : Point) :
    (∃ visible, clampDirtyRect frameWidth frameHeight rect = some visible ∧
      visible.contains point.1 point.2 = true) ↔
        rect.contains point.1 point.2 = true ∧ point.1 < frameWidth ∧
          point.2 < frameHeight := by
  rw [clampDirtyRect]
  split
  · simp only [reduceCtorEq, false_and, exists_false, false_iff,
      Rect.contains_iff]
    omega
  · simp only [Option.some.injEq, exists_eq_left', Rect.contains_iff]
    omega

theorem clamped_contains (narrow : frameWidth ≤ uint16Limit)
    (low : frameHeight ≤ uint16Limit) (rects : List Rect) (point : Point) :
    (∃ rect ∈ rects.filterMap (clampDirtyRect frameWidth frameHeight),
      rect.contains point.1 point.2 = true) ↔
    (∃ rect ∈ rects, rect.contains point.1 point.2 = true) ∧
      point.1 < frameWidth ∧ point.2 < frameHeight := by
  constructor
  · rintro ⟨visible, member, contained⟩
    obtain ⟨rect, original, clipped⟩ := List.mem_filterMap.mp member
    obtain ⟨inside, edges⟩ := (clampDirtyRect_contains narrow low rect point).mp
      ⟨visible, clipped, contained⟩
    exact ⟨⟨rect, original, inside⟩, edges⟩
  · rintro ⟨⟨rect, original, inside⟩, edges⟩
    obtain ⟨visible, clipped, contained⟩ :=
      (clampDirtyRect_contains narrow low rect point).mpr ⟨inside, edges⟩
    exact ⟨visible, List.mem_filterMap.mpr ⟨rect, original, clipped⟩,
      contained⟩

end Merge

def TouchVertically (a b : Rect) : Prop :=
  a.x = b.x ∧ a.width = b.width ∧ a.y ≤ b.y + b.height ∧
    b.y ≤ a.y + a.height

structure CoalesceLaw (frameWidth frameHeight : Nat)
    (rects result : List Rect) : Prop where
  same : ∀ point : Point,
    (∃ rect ∈ result, rect.contains point.1 point.2 = true) ↔
      (∃ rect ∈ rects, rect.contains point.1 point.2 = true) ∧
        point.1 < frameWidth ∧ point.2 < frameHeight
  fewer : result.length ≤ rects.length
  apart : result.Pairwise fun a b => ¬TouchVertically a b

theorem not_touchVertically {a b : Rect} (after : columnBefore b a = false)
    (separate : joinsColumn a b = false) : ¬TouchVertically a b := by
  have order := before3_eq_false.mp after
  rw [← Bool.not_eq_true] at separate
  simp only [joinsColumn, Bool.and_eq_true, decide_eq_true_eq] at separate
  rintro ⟨sameX, sameWidth, -, touches⟩
  exact separate ⟨⟨sameX, sameWidth⟩, touches⟩

theorem coalesceLaw (rowSort : Sorting rowBefore)
    (columnSort : Sorting columnBefore) {frameWidth frameHeight : Nat}
    (narrow : frameWidth ≤ uint16Limit) (low : frameHeight ≤ uint16Limit)
    (rects : List Rect) :
    CoalesceLaw frameWidth frameHeight rects
      (coalesceDirtyTextureRects rowSort columnSort frameWidth frameHeight
        rects) := by
  rw [coalesceDirtyTextureRects]
  have clamped : ∀ rect ∈
      rects.filterMap (clampDirtyRect frameWidth frameHeight),
      InFrame frameWidth frameHeight rect := by
    intro rect member
    obtain ⟨original, -, visible⟩ := List.mem_filterMap.mp member
    exact clampDirtyRect_inFrame visible
  have visible := clamped_contains narrow low rects
  have rows := mergeRuns_merged (rows_mergeable narrow) rowSort clamped
  generalize mergeRuns joinsRow mergeRow (rowSort.sort
    (rects.filterMap (clampDirtyRect frameWidth frameHeight))) = horizontal
    at rows ⊢
  have fewer := rows.fewer.trans (List.length_filterMap_le _ _)
  split
  · have columns :=
      mergeRuns_merged (columns_mergeable low) columnSort rows.valid
    refine ⟨fun point => ?_, columns.fewer.trans fewer, ?_⟩
    · exact (columns.same point).trans ((rows.same point).trans (visible point))
    · exact columns.apart.imp fun pair => not_touchVertically pair.1 pair.2
  · rename_i single
    refine ⟨fun point => (rows.same point).trans (visible point), fewer, ?_⟩
    cases horizontal with
    | nil => exact List.Pairwise.nil
    | cons first rest =>
        cases rest with
        | nil => exact List.pairwise_singleton _ _
        | cons second rest => exact absurd (by simp) single

/-! ## The plan of an upload -/

/-- What uploads have cost; a cost with few samples gives way to a default. -/
structure TextureUploadCostModel where
  pixelCostQ16 : Nat
  updateCallCostNs : Nat
  lockCallCostNs : Nat
  snapshotPixelCostQ16 : Nat
  updateSamples : Nat
  lockSamples : Nat
  pixelSamples : Nat
  snapshotSamples : Nat
  deriving DecidableEq, Repr

def renderCostMinSamples : Nat := 4

def scaledPixelCostNs (costQ16 pixels : Nat) : Nat :=
  let ns := pixels * costQ16 / 2 ^ 16
  if ns > uint64Max then uint64Max else ns

def saturatingAdd (a b : Nat) : Nat :=
  if a > uint64Max - b then uint64Max else a + b

def saturatingMultiply (a b : Nat) : Nat :=
  if a = 0 ∨ b = 0 then 0
  else if a > uint64Max / b then uint64Max else a * b

def observedOr (samples observed default : Nat) : Nat :=
  if samples ≥ renderCostMinSamples then observed else default

namespace TextureUploadCostModel

variable (costs : TextureUploadCostModel)

def texturePixelCostNs (pixels : Nat) : Nat :=
  scaledPixelCostNs
    (observedOr costs.pixelSamples costs.pixelCostQ16 (2 ^ 16)) pixels

def snapshotPixelCostNs (pixels : Nat) : Nat :=
  scaledPixelCostNs
    (observedOr costs.snapshotSamples costs.snapshotPixelCostQ16 (2 ^ 16))
    pixels

def updateCallCost : Nat :=
  observedOr costs.updateSamples costs.updateCallCostNs 16384

def lockCallCost : Nat :=
  observedOr costs.lockSamples costs.lockCallCostNs 131072

def uploadPathCost (pixels fixedCallCostNs callCount : Nat) : Nat :=
  let cost := saturatingAdd (costs.texturePixelCostNs pixels)
    (costs.snapshotPixelCostNs pixels)
  saturatingAdd cost (saturatingMultiply callCount fixedCallCostNs)

end TextureUploadCostModel

def materiallyCheaper (candidate current requiredSavingPercent : Nat) : Bool :=
  if current = 0 then candidate = 0
  else candidate * 100 ≤ current * (100 - requiredSavingPercent)

def dirtyRectPixelCount (rects : List Rect) : Nat :=
  rects.foldl (fun pixels rect => (pixels + rect.width * rect.height) % 2 ^ 64)
    0

structure DirtyTextureUploadPlan where
  mode : DirtyTextureUploadMode
  bounds : Rect
  sourcePixels : Nat
  deriving DecidableEq, Repr

def planBounds (costs : TextureUploadCostModel) (rects : List Rect)
    (plan : DirtyTextureUploadPlan) (bestCost : Nat) :
    DirtyTextureUploadPlan × Nat :=
  let bounds := boundingDirtyRect rects
  let boundsCost :=
    costs.uploadPathCost (bounds.width * bounds.height) costs.lockCallCost 1
  if bounds.width ≠ 0 ∧ bounds.height ≠ 0 ∧
      materiallyCheaper boundsCost bestCost 15 then
    ({ plan with mode := .bounds, bounds := bounds }, boundsCost)
  else (plan, bestCost)

def planDirtyTextureUpload (costs : TextureUploadCostModel)
    (frameWidth frameHeight : Nat) (rects : List Rect) :
    DirtyTextureUploadPlan :=
  let plan := ⟨.rects, ⟨0, 0, 0, 0⟩, dirtyRectPixelCount rects⟩
  let framePixels := frameWidth * frameHeight
  if rects.isEmpty || framePixels == 0 then { plan with mode := .full }
  else if rects.length ≥ 256 ||
      plan.sourcePixels * 100 % 2 ^ 64 ≥ framePixels * 60 % 2 ^ 64 then
    { plan with mode := .full }
  else
    let rectsCost := costs.uploadPathCost plan.sourcePixels
      costs.updateCallCost rects.length
    let chosen := planBounds costs rects plan rectsCost
    let fullCost := costs.uploadPathCost framePixels costs.lockCallCost 1
    if materiallyCheaper fullCost chosen.2 20 then
      { chosen.1 with mode := .full }
    else chosen.1

def DirtyTextureUploadPlan.Uploads (plan : DirtyTextureUploadPlan)
    (frameWidth frameHeight : Nat) (rects : List Rect) (point : Point) : Prop :=
  match plan.mode with
  | .rects => ∃ rect ∈ rects, rect.contains point.1 point.2 = true
  | .bounds => plan.bounds.contains point.1 point.2 = true
  | .full => point.1 < frameWidth ∧ point.2 < frameHeight

theorem planDirtyTextureUpload_cases (costs : TextureUploadCostModel)
    (frameWidth frameHeight : Nat) (rects : List Rect) :
    (planDirtyTextureUpload costs frameWidth frameHeight rects).mode = .full ∨
      (planDirtyTextureUpload costs frameWidth frameHeight rects).mode =
        .rects ∨
      (planDirtyTextureUpload costs frameWidth frameHeight rects).mode =
          .bounds ∧
        (planDirtyTextureUpload costs frameWidth frameHeight rects).bounds =
          boundingDirtyRect rects := by
  rw [planDirtyTextureUpload]
  dsimp only
  split
  · exact .inl rfl
  · split
    · exact .inl rfl
    · split
      · exact .inl rfl
      · rw [planBounds]
        dsimp only
        split
        · exact .inr (.inr ⟨rfl, rfl⟩)
        · exact .inr (.inl rfl)

theorem plan_uploads (costs : TextureUploadCostModel)
    {frameWidth frameHeight : Nat} (narrow : frameWidth ≤ uint16Limit)
    (low : frameHeight ≤ uint16Limit) {rects : List Rect}
    (inside : ∀ rect ∈ rects, InFrame frameWidth frameHeight rect)
    {rect : Rect} (member : rect ∈ rects) {point : Point}
    (contained : rect.contains point.1 point.2 = true) :
    (planDirtyTextureUpload costs frameWidth frameHeight rects).Uploads
      frameWidth frameHeight rects point := by
  have right := (inside rect member).right
  have bottom := (inside rect member).bottom
  have edges := Rect.contains_iff.mp contained
  rw [DirtyTextureUploadPlan.Uploads]
  obtain full | rectangles | ⟨bounds, same⟩ :=
    planDirtyTextureUpload_cases costs frameWidth frameHeight rects
  · rw [full]
    dsimp only
    omega
  · rw [rectangles]
    exact ⟨rect, member, contained⟩
  · rw [bounds, same]
    exact boundingDirtyRect_contains member contained (by omega) (by omega)

/-- Coalescing is exact, and no plan leaves out a pixel. -/
theorem coalesced_and_uploaded (rowSort : Sorting rowBefore)
    (columnSort : Sorting columnBefore) (frameWidth frameHeight : Nat)
    (narrow : frameWidth ≤ uint16Limit) (low : frameHeight ≤ uint16Limit) :
    (∀ rects, CoalesceLaw frameWidth frameHeight rects
      (coalesceDirtyTextureRects rowSort columnSort frameWidth frameHeight
        rects)) ∧
    ∀ costs rects, (∀ rect ∈ rects, InFrame frameWidth frameHeight rect) →
      ∀ rect ∈ rects, ∀ point : Point,
        rect.contains point.1 point.2 = true →
          (planDirtyTextureUpload costs frameWidth frameHeight rects).Uploads
            frameWidth frameHeight rects point :=
  ⟨coalesceLaw rowSort columnSort narrow low,
    fun costs _ inside _ member _ contained =>
      plan_uploads costs narrow low inside member contained⟩

theorem before3_total (a b : Nat × Nat × Nat) :
    before3 a b = false ∨ before3 b a = false := by
  rw [before3_eq_false, before3_eq_false]
  omega

theorem before3_trans (a b c : Nat × Nat × Nat) (first : before3 b a = false)
    (second : before3 c b = false) : before3 c a = false := by
  rw [before3_eq_false] at *
  omega

/-- Two rectangles side by side under a third, in a small frame, with sorts that
exist. -/
theorem coalesced_and_uploaded_threeRects :
    CoalesceLaw 64 64 [⟨0, 0, 32, 16⟩, ⟨0, 16, 16, 16⟩, ⟨16, 16, 16, 16⟩]
        (coalesceDirtyTextureRects
          (.ofMergeSort rowBefore (fun _ _ => before3_total _ _)
            fun _ _ _ => before3_trans _ _ _)
          (.ofMergeSort columnBefore (fun _ _ => before3_total _ _)
            fun _ _ _ => before3_trans _ _ _) 64 64
          [⟨0, 0, 32, 16⟩, ⟨0, 16, 16, 16⟩, ⟨16, 16, 16, 16⟩]) ∧
      (planDirtyTextureUpload ⟨0, 0, 0, 0, 0, 0, 0, 0⟩ 64 64
        [⟨0, 0, 32, 16⟩]).Uploads 64 64 [⟨0, 0, 32, 16⟩] (31, 15) := by
  obtain ⟨coalesced, uploaded⟩ := coalesced_and_uploaded
    (.ofMergeSort rowBefore (fun _ _ => before3_total _ _)
      fun _ _ _ => before3_trans _ _ _)
    (.ofMergeSort columnBefore (fun _ _ => before3_total _ _)
      fun _ _ _ => before3_trans _ _ _) 64 64 (by decide) (by decide)
  refine ⟨coalesced _, uploaded _ _ ?_ ⟨0, 0, 32, 16⟩ (by decide) _ (by decide)⟩
  intro rect member
  obtain rfl := List.mem_singleton.mp member
  exact ⟨by decide, by decide⟩

end WayDisplay.Client
