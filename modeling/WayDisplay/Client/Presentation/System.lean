import WayDisplay.Client.Presentation.RenderPass
import WayDisplay.Foundation.Runs

/-!
The client's presentation as one system: the receive thread, the render thread,
and the threads that may change who owns the display.
-/

namespace WayDisplay.Client

open Common Foundation

inductive ClientEvent (Pixel : Type) where
  | datagram (tile : CompletedTile Pixel)
  | receive
  | render (input : RenderInput)
  | offerContentEpoch (epoch : Nat) (owner : ContentOwner)
  | endVideoStream
  | publishVideoFrame

namespace ClientState

variable {config : ServerConfig} {Pixel : Type}

def step (s : ClientState config Pixel) :
    ClientEvent Pixel → ClientState config Pixel
  | .datagram tile => s.receiveDatagram tile
  | .receive => s.receiveStep
  | .render input => s.renderStep input
  | .offerContentEpoch epoch owner => s.offerContentEpoch epoch owner
  | .endVideoStream => s.endVideoStream
  | .publishVideoFrame => s.publishVideoFrame

def initialRender (hasFallbackTexture : Bool) : RenderThread Pixel where
  stage := .idle
  frameDirty := true
  textureNeedsFullUpload := true
  hasFallbackTexture := hasFallbackTexture
  localFrameDirty := false
  remoteFrameDirty := false
  remoteTextureUpdated := false
  contentTextureUpdated := false
  uploadedOwnership := none
  videoResultStale := false
  staleVideoNeedsTileRestore := false
  allowTileUpload := false
  directOwnership := .initial
  directTileUploads := []
  directTileRects := []
  dirtyRects := []
  uploadMode := .rects
  uploadFull := false
  tileGenerationUpdates := []

/-- What connecting, or applying a new configuration, leaves behind: a cleared
framebuffer, a texture of any content, and an epoch handed out by
`client_reset_content_epoch`. -/
def initial (config : ServerConfig) (clear : Pixel) (texture : Image Pixel)
    (contentEpoch ownershipEpoch : Nat) (hasFallbackTexture : Bool) :
    ClientState config Pixel where
  remote := ⟨contentEpoch, .tiles⟩
  ownership := ⟨ownershipEpoch, .tiles⟩
  tilePresentQueue := .initial
  pendingDirtyTiles := .clean
  pendingDirtyEpoch := ownershipEpoch
  pendingVideoFrameDirty := false
  framebuffer := fun _ => ⟨clear, 0⟩
  texture := texture
  receivedGeneration := fun _ => 0
  presentedGeneration := fun _ => 0
  pendingPresentGeneration := fun _ => 0
  receive := .idle
  render := initialRender hasFallbackTexture
  trace := ⟨[], fun _ => 0, [], true⟩

end ClientState

/-! ## Runs on a display of one pixel -/

namespace Script

def onePixel : ServerConfig where
  width := 1
  height := 1
  tile := .tile16x16
  width_pos := Nat.one_pos
  height_pos := Nat.one_pos
  width_le := one_le_maxRenderWidth
  height_le := one_le_maxRenderHeight

def start : ClientState onePixel Nat :=
  .initial onePixel 0 (fun _ => ⟨0, 0⟩) 1 2 false

def solid (generation colour : Nat) : CompletedTile Nat where
  wire := ⟨.tile16x16, 0⟩
  generation := generation
  contentEpoch := 1
  pixel := fun _ _ => colour

def publish (tile : CompletedTile Nat) : List (ClientEvent Nat) :=
  [.datagram tile, .receive, .receive]

def complete (tile : CompletedTile Nat) : List (ClientEvent Nat) :=
  publish tile ++ [.receive]

def due : RenderInput where
  windowDirty := false
  presentDue := true
  video := .noFrame
  uploadMode := .rects
  sdlFails := false

def rendering (sections : Nat) : List (ClientEvent Nat) :=
  List.replicate sections (.render due)

def firstPass : List (ClientEvent Nat) := rendering 12

end Script

end WayDisplay.Client
