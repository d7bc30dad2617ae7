import WayDisplay.Client.ContentOrder
import WayDisplay.Client.DirtyGrid
import WayDisplay.Client.PresentQueue
import WayDisplay.Client.RenderPlanning

/-!
The part of the client that brings completed tiles to the screen, and the
receive thread's side of it (`client_receive.cpp`).

Two threads share it.  The receive thread puts a completed tile into the present
queue, or into the framebuffer when the queue refuses it, and then records its
generation.  The render thread drains the queue, uploads, claims the generations
it shows and commits them once presented.  Each section under one mutex is one
step; where a thread stands between two of them is part of the state.

The last record is not in the program: it remembers the recorded completions,
what was ever uploaded to the texture and what the current pass has claimed.
-/

namespace WayDisplay.Client

open Common Foundation

def ServerConfig.gridShape (config : ServerConfig) : GridShape where
  frameWidth := config.width
  frameHeight := config.height
  tileWidth := config.tile.width
  tileHeight := config.tile.height
  width_pos := config.width_pos
  height_pos := config.height_pos
  width_le := Nat.le_trans config.width_le (by decide)
  height_le := Nat.le_trans config.height_le (by decide)
  tile_width_pos := config.tile_width_pos
  tile_height_pos := config.tile_height_pos

/-! ## Completed tiles -/

structure CompletedTile (Pixel : Type) where
  wire : WireTile
  generation : Nat
  contentEpoch : Nat
  pixel : Nat → Nat → Pixel

namespace CompletedTile

variable {Pixel : Type}

def baseIds (config : ServerConfig) (tile : CompletedTile Pixel) : List Nat :=
  forEachCompletedBaseTile config tile.wire

def upload (tile : CompletedTile Pixel) (rect : Rect)
    (ownership : StreamOwnership) : ClientTileUpload Pixel where
  rect := rect
  ownershipEpoch := ownership.epoch
  generation := tile.generation
  sourcePitch := tile.wire.size.width * bytesPerPixel
  byteSize := tile.wire.size.width * tile.wire.size.height * bytesPerPixel
  pixel := tile.pixel

def layer (tile : CompletedTile Pixel) (rect : Rect) :
    Layer Point (Texel Pixel) :=
  (tile.upload rect .initial).layer

end CompletedTile

/-! ## Threads -/

/-- Where the receive thread stands with the datagram that completes a tile.
From `refused` on it holds the content mutex. -/
inductive ReceiveStage (Pixel : Type) where
  | idle
  | accepted (tile : CompletedTile Pixel)
  | reassembled (tile : CompletedTile Pixel)
  | refused (tile : CompletedTile Pixel) (rect : Rect)
  | blitted (tile : CompletedTile Pixel) (rect : Rect)
  | queued (tile : CompletedTile Pixel) (rect : Rect)
  | marked (tile : CompletedTile Pixel) (rect : Rect)

def ReceiveStage.holdsContent {Pixel : Type} : ReceiveStage Pixel → Bool
  | .refused _ _ | .blitted _ _ | .queued _ _ | .marked _ _ => true
  | _ => false

inductive RenderStage where
  | idle
  | polling
  | deciding
  | draining
  | uploading
  | claimingDirect
  | taking
  | planning
  | claiming
  | clearing
  | updating
  | checking
  | requeueing
  | presenting
  | stopped
  deriving DecidableEq, Repr

/-- The render loop: the flags it carries from pass to pass, then the locals of
a pass. -/
structure RenderThread (Pixel : Type) where
  stage : RenderStage
  frameDirty : Bool
  textureNeedsFullUpload : Bool
  hasFallbackTexture : Bool
  localFrameDirty : Bool
  remoteFrameDirty : Bool
  remoteTextureUpdated : Bool
  contentTextureUpdated : Bool
  uploadedOwnership : Option StreamOwnership
  videoResultStale : Bool
  staleVideoNeedsTileRestore : Bool
  allowTileUpload : Bool
  directOwnership : StreamOwnership
  directTileUploads : List (ClientTileUpload Pixel)
  directTileRects : List Rect
  dirtyRects : List Rect
  uploadMode : DirtyTextureUploadMode
  uploadFull : Bool
  tileGenerationUpdates : List ClientTileGenerationUpdate

structure PresentationTrace (Pixel : Type) where
  recorded : List (CompletedTile Pixel × Rect)
  uploaded : Point → Nat
  claimed : List ClientTileGenerationUpdate
  passOwnedByTiles : Bool

structure ClientState (config : ServerConfig) (Pixel : Type) where
  remote : RemoteContent
  ownership : StreamOwnership
  tilePresentQueue : ClientTilePresentQueue Pixel
  pendingDirtyTiles : ClientDirtyTileGrid config.gridShape
  pendingDirtyEpoch : Nat
  pendingVideoFrameDirty : Bool
  framebuffer : Image Pixel
  texture : Image Pixel
  receivedGeneration : Generations
  presentedGeneration : Generations
  pendingPresentGeneration : Generations
  receive : ReceiveStage Pixel
  render : RenderThread Pixel
  trace : PresentationTrace Pixel

namespace ClientState

variable {config : ServerConfig} {Pixel : Type}

/-! ## Ownership -/

/-- `reset_pending_content_locked`: no pending work outlives its epoch. -/
def resetPendingContent (s : ClientState config Pixel) (owner : ContentOwner) :
    ClientState config Pixel :=
  { s with
    pendingDirtyTiles := s.pendingDirtyTiles.clear
    pendingPresentGeneration := fun _ => 0
    pendingVideoFrameDirty := false
    ownership := s.ownership.advance owner
    pendingDirtyEpoch := (s.ownership.advance owner).epoch
    trace := { s.trace with
      passOwnedByTiles := s.trace.passOwnedByTiles && owner = .tiles } }

def acceptContentEpoch (s : ClientState config Pixel) (epoch : Nat)
    (owner : ContentOwner) : ClientState config Pixel :=
  match s.remote.judge epoch owner with
  | .advanced => { s.resetPendingContent owner with remote := ⟨epoch, owner⟩ }
  | _ => s

def offerContentEpoch (s : ClientState config Pixel) (epoch : Nat)
    (owner : ContentOwner) : ClientState config Pixel :=
  if s.receive.holdsContent then s else s.acceptContentEpoch epoch owner

def endVideoStream (s : ClientState config Pixel) : ClientState config Pixel :=
  { s with
    ownership := s.ownership.endVideoStream
    pendingVideoFrameDirty := false
    pendingDirtyEpoch :=
      if s.pendingDirtyTiles.dirtyTileCount ≠ 0 then
        s.ownership.endVideoStream.epoch
      else s.pendingDirtyEpoch }

def publishVideoFrame (s : ClientState config Pixel) :
    ClientState config Pixel :=
  if s.receive.holdsContent ∨ s.remote.owner ≠ .video ∨
      s.ownership.owner ≠ .video then s
  else
    { s with
      pendingDirtyTiles := s.pendingDirtyTiles.clear
      pendingPresentGeneration := fun _ => 0
      pendingDirtyEpoch := s.ownership.epoch
      pendingVideoFrameDirty := true }

/-! ## The receive thread -/

def receiveDatagram (s : ClientState config Pixel)
    (tile : CompletedTile Pixel) : ClientState config Pixel :=
  match s.receive with
  | .idle =>
      if (tileUploadGeometry config tile.wire).isNone ∨
          s.remote.judge tile.contentEpoch .tiles = .stale then s
      else
        { s.acceptContentEpoch tile.contentEpoch .tiles with
          receive := .accepted tile }
  | _ => s

/-- The reassembler takes a packet unless a tile under it is newer, or none is
older. -/
def wantsGeneration (received : Generations) (tileIds : List Nat)
    (generation : Nat) : Bool :=
  !tileIds.isEmpty && !tileIds.any (fun id => received id > generation) &&
    tileIds.any (fun id => received id < generation)

def reassemble (s : ClientState config Pixel) (tile : CompletedTile Pixel) :
    ClientState config Pixel :=
  if wantsGeneration s.receivedGeneration
      (forEachBaseTileCovered config tile.wire) tile.generation then
    { s with receive := .reassembled tile }
  else { s with receive := .idle }

def publish (s : ClientState config Pixel) (tile : CompletedTile Pixel) :
    ClientState config Pixel :=
  if tile.contentEpoch ≠ s.remote.epoch ∨ s.remote.owner ≠ .tiles then
    { s with receive := .idle }
  else
    match tileUploadGeometry config tile.wire with
    | none => { s with receive := .idle }
    | some rect =>
        let pushed := s.tilePresentQueue.push (tile.upload rect s.ownership)
        { s with
          tilePresentQueue := pushed.1
          receive :=
            match pushed.2.1 with
            | .rejected => .refused tile rect
            | _ => .queued tile rect }

def blitTile (s : ClientState config Pixel) (tile : CompletedTile Pixel)
    (rect : Rect) : ClientState config Pixel :=
  { s with
    framebuffer := paint s.framebuffer (tile.layer rect)
    receive := .blitted tile rect }

def markDirty (s : ClientState config Pixel) (tile : CompletedTile Pixel)
    (rect : Rect) : ClientState config Pixel :=
  match s.pendingDirtyTiles.markRect rect with
  | none => { s with receive := .idle }
  | some marked =>
      { s with
        pendingDirtyTiles := marked
        pendingDirtyEpoch := s.ownership.epoch
        receive := .marked tile rect }

def markCompletedBaseGenerations (generations : Generations)
    (tileIds : List Nat) (generation : Nat) : Generations :=
  fun id =>
    if id ∈ tileIds ∧ generation > generations id then generation
    else generations id

def record (s : ClientState config Pixel) (tile : CompletedTile Pixel)
    (rect : Rect) : ClientState config Pixel :=
  { s with
    receivedGeneration := markCompletedBaseGenerations s.receivedGeneration
      (tile.baseIds config) tile.generation
    pendingPresentGeneration := markCompletedBaseGenerations
      s.pendingPresentGeneration (tile.baseIds config) tile.generation
    receive := .idle
    trace := { s.trace with recorded := s.trace.recorded ++ [(tile, rect)] } }

def receiveStep (s : ClientState config Pixel) : ClientState config Pixel :=
  match s.receive with
  | .idle => s
  | .accepted tile => s.reassemble tile
  | .reassembled tile => s.publish tile
  | .refused tile rect => s.blitTile tile rect
  | .blitted tile rect => s.markDirty tile rect
  | .queued tile rect => s.record tile rect
  | .marked tile rect => s.record tile rect

end ClientState

end WayDisplay.Client
