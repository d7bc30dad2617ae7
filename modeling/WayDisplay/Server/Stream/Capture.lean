import WayDisplay.Server.ReadbackRegions
import WayDisplay.Server.Stream.State

/-!
From the compositor to a frame analysis (`wd_readback.c`, `wd_server.c`,
`wd_stream_frame_worker.c`, `wd_stream_analyze_frame`).

A rendered frame is either exported to the video encoder, which leaves the CPU
framebuffer as it was, or read back into it.  The worker then compares the
framebuffer with its shadow, tile by tile.

The output buffer is taken to hold the complete scene, and the damage of a
frame to cover what the frame changed: a frame draws into the tiles it damages.
-/

namespace WayDisplay.Server

open Common

/-! ## Damage -/

namespace SceneDamage

def none : SceneDamage := ⟨false, fun _ => false⟩

def all : SceneDamage := ⟨true, fun _ => false⟩

def hits (damage : SceneDamage) (tileId : Nat) : Bool :=
  damage.allTiles || damage.tiles tileId

/-- Add the damage of a frame to what was marked before it. -/
def merge (marked added : SceneDamage) : SceneDamage :=
  if added.allTiles then all
  else if marked.allTiles then marked
  else ⟨false, fun tileId => marked.tiles tileId || added.tiles tileId⟩

theorem merge_allTiles {marked added : SceneDamage}
    (all : marked.allTiles = true) : (marked.merge added).allTiles = true := by
  unfold merge
  split_ifs
  · rfl
  · exact all

def tileCount (damage : SceneDamage) (geometry : Geometry) : Nat :=
  (List.range geometry.totalTiles).countP damage.tiles

theorem merge_hits (marked added : SceneDamage) (tileId : Nat) :
    (marked.merge added).hits tileId = true ↔
      marked.hits tileId = true ∨ added.hits tileId = true := by
  unfold merge
  split_ifs with addedAll markedAll
  · simp [hits, all, addedAll]
  · simp [hits, markedAll]
  · simp [hits, addedAll, markedAll]

end SceneDamage

def Capture.withDamage (capture : Capture) (damage : SceneDamage) : Capture :=
  { capture with damage := damage }

/-! ## Rendering -/

structure RenderedFrame where
  damage : SceneDamage
  pixels : Image
  gpuExport : Bool
  textureRead : Bool

inductive RenderOutcome where
  | notBuilt
  | noBuffer
  | notCaptured (damage : SceneDamage)
  | frame (rendered : RenderedFrame)

namespace Capture

def compose (capture : Capture) (geometry : Geometry)
    (rendered : RenderedFrame) : Capture :=
  { capture with
    composed := fun x y =>
      if rendered.damage.hits (geometry.tileAt x y) then
        some (rendered.pixels x y)
      else capture.composed x y }

def buffer (capture : Capture) (rendered : RenderedFrame) : Image :=
  fun x y => (capture.composed x y).getD (rendered.pixels x y)

def readbackRegions (geometry : Geometry) (damage : SceneDamage) : List Rect :=
  readbackPlanRegions damage.allTiles damage.tiles (damage.tileCount geometry)
    (readbackGrid geometry) readbackRegionCapacity

def readback (capture : Capture) (geometry : Geometry)
    (rendered : RenderedFrame) (damage : SceneDamage) : Capture :=
  { capture with
    framebuffer := fun x y =>
      if !rendered.textureRead || (readbackRegions geometry damage).any
          (fun region => region.contains x y) then
        capture.buffer rendered x y
      else capture.framebuffer x y }

end Capture

namespace ServerState

def videoGpuCaptureNeeded (s : ServerState) : Bool :=
  s.net.videoOwnsDisplay && s.net.videoWorker && s.net.videoStreamNegotiated &&
    s.net.videoTcpFd.isSome

def frameDamage (s : ServerState) (rendered : RenderedFrame) : SceneDamage :=
  s.capture.damage.merge rendered.damage

def capturesOnGpu (s : ServerState) (rendered : RenderedFrame) : Bool :=
  s.videoGpuCaptureNeeded && rendered.gpuExport

def captureFrame (s : ServerState) (rendered : RenderedFrame) : Capture :=
  let composed := s.capture.compose s.geometry rendered
  if s.capturesOnGpu rendered then composed
  else composed.readback s.geometry rendered (s.frameDamage rendered)

def submitFrame (s : ServerState) (rendered : RenderedFrame) : ServerState :=
  { s with
    capture := (s.captureFrame rendered).withDamage .none
    worker := .frameSubmitted
      ⟨s.frameDamage rendered, !s.capturesOnGpu rendered⟩ }

/-- `wd_stream_policy_should_render_now` on an idle worker.  Whether the scene is
dirty and the pacing due is left to the compositor, which renders or does not. -/
def mayRender (s : ServerState) : Bool :=
  s.worker.isIdle && s.net.clientConnected && !s.net.configUpdatePending

theorem isIdle_of_mayRender {s : ServerState} (may : s.mayRender = true) :
    s.worker.isIdle = true := by
  simp only [mayRender, Bool.and_eq_true] at may
  exact may.1.1

/-- `wd_render_scene_and_readback_xrgb8888` and what follows on its result. -/
def render (s : ServerState) (outcome : RenderOutcome) : ServerState :=
  if s.mayRender then
    match outcome with
    | .notBuilt => s
    | .noBuffer => { s with capture := s.capture.withDamage .none }
    | .notCaptured damage =>
        { s with
          capture := s.capture.withDamage (s.capture.damage.merge damage) }
    | .frame rendered => s.submitFrame rendered
  else s

def applyPendingCompositorRequests (s : ServerState) : ServerState :=
  if !s.worker.isIdle || !s.fullRefreshRequested then s
  else
    { s with
      fullRefreshRequested := false
      capture := { s.capture with damage := .all, shadowValid := false } }

def requestService (s : ServerState) : ServerState :=
  if s.worker.isIdle then s.withWorker .serviceRequested else s

/-! ## Analysis -/

def readForce (s : ServerState) : ServerState :=
  match s.worker with
  | .frameSubmitted frame =>
      s.withWorker (.forceRead frame s.net.refreshNeeded)
  | _ => s

def skipsShadow (s : ServerState) (forceFullRefresh : Bool) : Bool :=
  s.net.videoOwnsDisplay && !forceFullRefresh &&
    !s.net.streamPolicy.tileRefreshPending && !s.net.configUpdatePending

def dropShadow (s : ServerState) : ServerState :=
  { s with
    capture := { s.capture with shadowValid := false }
    worker := .analyzed ⟨.none, false⟩ }

/-- The locked part of `wd_stream_analyze_frame`. -/
def checkShadow (s : ServerState) : ServerState :=
  match s.worker with
  | .forceRead frame force =>
      if s.skipsShadow force then s.dropShadow
      else if !frame.cpuFramebufferRefreshed then
        s.requestFullRefresh.withWorker .idle
      else s.withWorker (.diffing frame force)
  | _ => s

end ServerState

def tileDiffers (geometry : Geometry) (first second : Image) (tileId : Nat) :
    Bool :=
  let rect := geometry.tileRect tileId
  (List.range rect.height).any fun row =>
    (List.range rect.width).any fun column =>
      first (rect.x + column) (rect.y + row) !=
        second (rect.x + column) (rect.y + row)

namespace Capture

/-- A shadow that is invalid, or not to be trusted, changes everywhere. -/
def changedBaseTile (capture : Capture) (geometry : Geometry)
    (damage : SceneDamage) (shadowValid : Bool) (tileId : Nat) : Bool :=
  decide (tileId < geometry.totalTiles) &&
    (!shadowValid || damage.hits tileId &&
      tileDiffers geometry capture.framebuffer capture.shadow tileId)

def changedTiles (geometry : Geometry) (changedBase : Nat → Bool) (tileId : Nat) :
    Bool :=
  (List.range geometry.totalTiles).any fun baseTileId =>
    changedBase baseTileId &&
      geometry.protocolTileForBaseTile baseTileId == some tileId

def updateShadow (capture : Capture) (geometry : Geometry)
    (changedBase : Nat → Bool) : Capture :=
  { capture with
    shadowValid := true
    shadow := fun x y =>
      if changedBase (geometry.tileAt x y) then capture.framebuffer x y
      else capture.shadow x y }

end Capture

def Trace.noteChanged (trace : Trace) (changedBase : Nat → Bool) : Trace :=
  { trace with
    unsent := fun tileId => trace.unsent tileId || changedBase tileId }

namespace ServerState

/-- The comparison with the shadow, outside the lock. -/
def diffFrame (s : ServerState) : ServerState :=
  match s.worker with
  | .diffing frame force =>
      let valid := s.capture.shadowValid && !force
      let changed := s.capture.changedBaseTile s.geometry frame.damage valid
      { s with
        capture := s.capture.updateShadow s.geometry changed
        worker := .analyzed
          ⟨some (Capture.changedTiles s.geometry changed), !valid⟩
        trace := s.trace.noteChanged changed }
  | _ => s

end ServerState

theorem Capture.changedTiles_eq {geometry : Geometry} {changedBase : Nat → Bool}
    {tileId : Nat} (valid : tileId < geometry.totalTiles) :
    Capture.changedTiles geometry changedBase tileId = changedBase tileId := by
  rw [Bool.eq_iff_iff, Capture.changedTiles, List.any_eq_true]
  constructor
  · rintro ⟨baseTileId, member, changed⟩
    rw [Bool.and_eq_true, beq_iff_eq,
      geometry.protocolTileForBaseTile_eq (List.mem_range.mp member)] at changed
    exact Option.some.inj changed.2 ▸ changed.1
  · intro changed
    refine ⟨tileId, List.mem_range.mpr valid, ?_⟩
    simp [changed, geometry.protocolTileForBaseTile_eq valid]

end WayDisplay.Server
