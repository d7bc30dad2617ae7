import WayDisplay.Client.Presentation.State

/-!
A pass of the render loop (`run_sdl_viewer`).

The pass drains the present queue and uploads each tile to the texture and the
framebuffer, claims the generations under those tiles, takes the dirty
rectangles, claims again for what it uploads from the framebuffer, and commits
the claimed generations when the frame has been presented.

Work that touches only the renderer's own data is part of the section before or
after it: the texture belongs to the render thread alone.
-/

namespace WayDisplay.Client

open Common Foundation

inductive VideoPoll where
  | noFrame
  | held
  | audioDropped
  | failed
  | frame (epoch : Nat) (uploaded remaining : Bool)
  deriving DecidableEq, Repr

/-- What a section of the pass depends on besides the state: window events and
pacing, the video queue, the cost model and whether SDL fails. -/
structure RenderInput where
  windowDirty : Bool
  presentDue : Bool
  video : VideoPoll
  uploadMode : DirtyTextureUploadMode
  sdlFails : Bool
  deriving DecidableEq, Repr

namespace RenderThread

variable {Pixel : Type}

def atStage (render : RenderThread Pixel) (stage : RenderStage) :
    RenderThread Pixel :=
  { render with stage := stage }

end RenderThread

namespace ClientState

variable {config : ServerConfig} {Pixel : Type}

def withRender (s : ClientState config Pixel) (render : RenderThread Pixel) :
    ClientState config Pixel :=
  { s with render := render }

def remoteDirtyPending (s : ClientState config Pixel) : Bool :=
  s.pendingVideoFrameDirty || s.pendingDirtyTiles.dirtyTileCount != 0 ||
    !s.tilePresentQueue.uploads.isEmpty

def freshPass (s : ClientState config Pixel) (input : RenderInput) :
    RenderThread Pixel :=
  let frameDirty := s.render.frameDirty || input.windowDirty
  let localFrameDirty := frameDirty ||
    (s.render.textureNeedsFullUpload && !s.render.hasFallbackTexture)
  { s.render with
    frameDirty := frameDirty
    localFrameDirty := localFrameDirty
    remoteFrameDirty :=
      s.remoteDirtyPending && (localFrameDirty || input.presentDue)
    remoteTextureUpdated := false
    contentTextureUpdated := false
    uploadedOwnership := none
    videoResultStale := false
    staleVideoNeedsTileRestore := false
    allowTileUpload := false
    directTileUploads := []
    directTileRects := []
    dirtyRects := []
    uploadFull := false
    tileGenerationUpdates := [] }

def beginPass (s : ClientState config Pixel) (input : RenderInput) :
    ClientState config Pixel :=
  let pass := s.freshPass input
  let started := { s with trace := { s.trace with
    claimed := []
    passOwnedByTiles := s.ownership.owner == ContentOwner.tiles } }
  if !(pass.localFrameDirty || pass.remoteFrameDirty) then
    s.withRender { s.render with frameDirty := pass.frameDirty }
  else if pass.textureNeedsFullUpload || pass.remoteFrameDirty then
    started.withRender (pass.atStage .polling)
  else started.withRender (pass.atStage .checking)

/-- `upload_pending_video_texture`, and where its result leads. -/
def pollVideo (s : ClientState config Pixel) (input : RenderInput) :
    ClientState config Pixel :=
  if !s.pendingVideoFrameDirty then
    s.withRender (s.render.atStage .deciding)
  else
    match input.video with
    | .noFrame =>
        { s with
          pendingVideoFrameDirty := false
          render := s.render.atStage .deciding }
    | .held =>
        s.withRender { s.render with
          remoteFrameDirty := false, stage := .checking }
    | .audioDropped =>
        { s with
          pendingVideoFrameDirty := false
          render := { s.render with
            remoteFrameDirty := false, stage := .checking } }
    | .failed => s.withRender (s.render.atStage .stopped)
    | .frame epoch uploaded remaining =>
        if s.ownership.isCurrent ⟨epoch, .video⟩ then
          { s with
            pendingVideoFrameDirty := remaining
            render := { s.render with
              uploadedOwnership := some ⟨epoch, .video⟩
              contentTextureUpdated := true
              remoteTextureUpdated := true
              stage := .checking } }
        else
          { s with
            pendingVideoFrameDirty := remaining
            render := { s.render with
              videoResultStale := true
              uploadedOwnership :=
                if uploaded then some ⟨epoch, .video⟩
                else s.render.uploadedOwnership
              contentTextureUpdated := uploaded
              stage := .deciding } }

/-- Whether tiles may be uploaded in this pass: not before the first whole
frame of a new surface, and not over newer video. -/
def allowsTileUpload (s : ClientState config Pixel) : Bool :=
  let ownedByTiles := s.ownership.owner == ContentOwner.tiles
  (!(s.render.hasFallbackTexture && ownedByTiles) ||
    clientTileFrameComplete s.receivedGeneration config.totalTiles) &&
  (!s.render.videoResultStale || ownedByTiles)

def decideUpload (s : ClientState config Pixel) : ClientState config Pixel :=
  s.withRender { s.render with
    staleVideoNeedsTileRestore :=
      s.render.videoResultStale && s.ownership.owner == ContentOwner.tiles
    allowTileUpload := s.allowsTileUpload
    stage := if s.allowsTileUpload then .draining else .taking }

/-- Drains the queue.  The ownership the uploads are held against is read at
the start of `upload_completed_tiles_direct`. -/
def drainQueue (s : ClientState config Pixel) : ClientState config Pixel :=
  { s with
    tilePresentQueue := s.tilePresentQueue.drain.1
    render := { s.render with
      directTileUploads := s.tilePresentQueue.drain.2
      directOwnership := s.ownership
      stage := .uploading } }

/-- `client_tile_upload_matches_ownership` and the checks of the copy. -/
def uploadMatches (s : ClientState config Pixel)
    (upload : ClientTileUpload Pixel) : Bool :=
  upload.valid && s.render.directOwnership.owner == .tiles &&
    upload.ownershipEpoch == s.render.directOwnership.epoch

def uploadFits (config : ServerConfig) (upload : ClientTileUpload Pixel) :
    Bool :=
  upload.rect.x + upload.rect.width ≤ config.width &&
    upload.rect.y + upload.rect.height ≤ config.height

def noteUploaded (uploaded : Point → Nat) (region : Point → Bool)
    (image : Image Pixel) : Point → Nat :=
  fun point =>
    if region point then max (uploaded point) (image point).generation
    else uploaded point

def applyUpload (s : ClientState config Pixel)
    (upload : ClientTileUpload Pixel) (rest : List (ClientTileUpload Pixel)) :
    ClientState config Pixel :=
  { s with
    texture := paint s.texture upload.layer
    framebuffer := paint s.framebuffer upload.layer
    render := { s.render with
      directTileUploads := rest
      directTileRects := s.render.directTileRects ++ [upload.rect] }
    trace := { s.trace with
      uploaded := noteUploaded s.trace.uploaded upload.layer.covers
        upload.layer.value } }

def skipUpload (s : ClientState config Pixel)
    (rest : List (ClientTileUpload Pixel)) : ClientState config Pixel :=
  s.withRender { s.render with directTileUploads := rest }

def finishUploads (s : ClientState config Pixel) : ClientState config Pixel :=
  if s.render.directTileRects.isEmpty then
    s.withRender (s.render.atStage .taking)
  else
    s.withRender { s.render with
      uploadedOwnership := some s.ownership
      stage := .claimingDirect }

def uploadNext (s : ClientState config Pixel) (input : RenderInput) :
    ClientState config Pixel :=
  match s.render.directTileUploads with
  | [] => s.finishUploads
  | upload :: rest =>
      if !s.uploadMatches upload then s.skipUpload rest
      else if input.sdlFails || !uploadFits config upload then
        s.withRender (s.render.atStage .stopped)
      else s.applyUpload upload rest

def claims (s : ClientState config Pixel) (tileIds : List Nat) :
    Generations × List ClientTileGenerationUpdate :=
  claimPendingTileGenerations s.pendingPresentGeneration s.presentedGeneration
    config.totalTiles tileIds

def takeClaims (s : ClientState config Pixel)
    (claims : Generations × List ClientTileGenerationUpdate)
    (stage : RenderStage) : ClientState config Pixel :=
  { s with
    pendingPresentGeneration := claims.1
    render := { s.render with
      tileGenerationUpdates := claims.2
      stage := stage }
    trace := { s.trace with claimed := s.trace.claimed ++ claims.2 } }

def claimFor (s : ClientState config Pixel) (tileIds : List Nat)
    (stage : RenderStage) : ClientState config Pixel :=
  s.takeClaims (s.claims tileIds) stage

def directTileIds (s : ClientState config Pixel) : List Nat :=
  collectBaseTileIdsForRects config s.render.directTileRects

def claimDirect (s : ClientState config Pixel) : ClientState config Pixel :=
  s.claimFor s.directTileIds .taking

def takesDirty (s : ClientState config Pixel) : Bool :=
  s.render.allowTileUpload && !s.render.textureNeedsFullUpload &&
    !s.render.staleVideoNeedsTileRestore

def takeDirty (s : ClientState config Pixel) : ClientState config Pixel :=
  if s.takesDirty then
    { s with
      pendingDirtyTiles := s.pendingDirtyTiles.takeRects.2
      render := { s.render with
        dirtyRects := s.pendingDirtyTiles.takeRects.1
        uploadedOwnership := some ⟨s.pendingDirtyEpoch, s.ownership.owner⟩
        stage := .planning } }
  else s.withRender (s.render.atStage .planning)

def directTileUpdated (s : ClientState config Pixel) : Bool :=
  !s.render.directTileRects.isEmpty

def selectsFull (s : ClientState config Pixel)
    (mode : DirtyTextureUploadMode) : Bool :=
  s.render.allowTileUpload && (s.render.textureNeedsFullUpload ||
    s.render.staleVideoNeedsTileRestore ||
    (!s.render.dirtyRects.isEmpty && mode == .full))

def planUpload (s : ClientState config Pixel) (input : RenderInput) :
    ClientState config Pixel :=
  let full := s.selectsFull input.uploadMode
  s.withRender { s.render with
    remoteFrameDirty := remoteFrameStillDirty s.render.remoteFrameDirty
      s.directTileUpdated s.render.textureNeedsFullUpload
      s.render.staleVideoNeedsTileRestore s.render.dirtyRects.length
    uploadMode := input.uploadMode
    uploadFull := full
    uploadedOwnership :=
      if full then some s.ownership else s.render.uploadedOwnership
    stage := .claiming }

def finishTiles (s : ClientState config Pixel) (tileTextureUpdated : Bool) :
    ClientState config Pixel :=
  s.withRender { s.render with
    contentTextureUpdated :=
      s.render.contentTextureUpdated || tileTextureUpdated
    remoteTextureUpdated := tileTextureUpdated &&
      (s.render.remoteFrameDirty || s.render.staleVideoNeedsTileRestore)
    stage := .checking }

def claimUpload (s : ClientState config Pixel) : ClientState config Pixel :=
  if s.render.uploadFull then
    s.takeClaims (claimAllPendingTileGenerations s.pendingPresentGeneration
      s.presentedGeneration config.totalTiles) .clearing
  else if s.render.dirtyRects.isEmpty then s.finishTiles s.directTileUpdated
  else s.claimFor (collectBaseTileIdsForRects config s.render.dirtyRects)
    .updating

def clearGrid (s : ClientState config Pixel) : ClientState config Pixel :=
  { s with
    pendingDirtyTiles := s.pendingDirtyTiles.clear
    render := s.render.atStage .updating }

def uploadRegion (config : ServerConfig) (render : RenderThread Pixel)
    (point : Point) : Bool :=
  decide (config.onDisplay point) &&
    (render.uploadFull ||
      match render.uploadMode with
      | .bounds =>
          (boundingDirtyRect render.dirtyRects).contains point.1 point.2
      | _ => render.dirtyRects.any fun rect =>
          rect.contains point.1 point.2)

/-- Copies the region to the texture.  The snapshot is taken under the
framebuffer mutex, the copy of it is the renderer's own. -/
def copyToTexture (s : ClientState config Pixel) : ClientState config Pixel :=
  { s with
    texture := fun point =>
      if uploadRegion config s.render point then s.framebuffer point
      else s.texture point
    trace := { s.trace with
      uploaded := noteUploaded s.trace.uploaded
        (uploadRegion config s.render) s.framebuffer } }

def putBackUpdates (s : ClientState config Pixel) : ClientState config Pixel :=
  { s with
    pendingPresentGeneration := requeueTileGenerationUpdates config.totalTiles
      s.pendingPresentGeneration s.render.tileGenerationUpdates }

def stop (s : ClientState config Pixel) : ClientState config Pixel :=
  s.withRender (s.render.atStage .stopped)

def updateTexture (s : ClientState config Pixel) (input : RenderInput) :
    ClientState config Pixel :=
  if input.sdlFails then s.putBackUpdates.stop
  else s.copyToTexture.finishTiles true

def uploadStale (s : ClientState config Pixel) : Bool :=
  s.render.contentTextureUpdated &&
    match s.render.uploadedOwnership with
    | some seen => !s.ownership.isCurrent seen
    | none => false

def abandonUpload (s : ClientState config Pixel) : ClientState config Pixel :=
  if s.ownership.owner = .tiles then
    s.withRender { s.render with
      remoteTextureUpdated := false
      textureNeedsFullUpload := true
      frameDirty := true
      stage := .requeueing }
  else
    s.withRender { s.render with
      remoteTextureUpdated := false
      tileGenerationUpdates := []
      stage := .idle }

def checkOwnership (s : ClientState config Pixel) : ClientState config Pixel :=
  if s.uploadStale then s.abandonUpload
  else if s.render.localFrameDirty || s.render.remoteTextureUpdated then
    s.withRender (s.render.atStage .presenting)
  else s.withRender (s.render.atStage .idle)

def requeueUpdates (s : ClientState config Pixel) : ClientState config Pixel :=
  s.putBackUpdates.withRender
    { s.render with tileGenerationUpdates := [], stage := .idle }

def commitUpdates (s : ClientState config Pixel) : ClientState config Pixel :=
  { s with
    presentedGeneration := commitTileGenerationUpdates config.totalTiles
      s.presentedGeneration s.render.tileGenerationUpdates }

def presentFrame (s : ClientState config Pixel) (input : RenderInput) :
    ClientState config Pixel :=
  if input.sdlFails then s.putBackUpdates.stop
  else
    s.commitUpdates.withRender { s.render with
      hasFallbackTexture :=
        s.render.hasFallbackTexture && !s.render.contentTextureUpdated
      frameDirty := false
      textureNeedsFullUpload :=
        s.render.textureNeedsFullUpload && !s.render.contentTextureUpdated
      stage := .idle }

def renderStep (s : ClientState config Pixel) (input : RenderInput) :
    ClientState config Pixel :=
  match s.render.stage with
  | .idle => s.beginPass input
  | .polling => s.pollVideo input
  | .deciding => s.decideUpload
  | .draining => s.drainQueue
  | .uploading => s.uploadNext input
  | .claimingDirect => s.claimDirect
  | .taking => s.takeDirty
  | .planning => s.planUpload input
  | .claiming => s.claimUpload
  | .clearing => s.clearGrid
  | .updating => s.updateTexture input
  | .checking => s.checkOwnership
  | .requeueing => s.requeueUpdates
  | .presenting => s.presentFrame input
  | .stopped => s

end ClientState

end WayDisplay.Client
