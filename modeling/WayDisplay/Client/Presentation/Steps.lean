import WayDisplay.Client.Presentation.System

/-!
What each thread leaves alone.

Only the render thread touches its own locals, the texture and the presented
generations.  Only the receive thread moves its stage and records completions,
and the render thread never changes who owns the display.
-/

namespace WayDisplay.Client

open Common Foundation

variable {config : ServerConfig} {Pixel : Type}

/-! ## Steps outside the render thread -/

structure RendererSame (s s' : ClientState config Pixel) : Prop where
  render : s'.render = s.render
  texture : s'.texture = s.texture
  presented : s'.presentedGeneration = s.presentedGeneration
  uploaded : s'.trace.uploaded = s.trace.uploaded
  claimed : s'.trace.claimed = s.trace.claimed

namespace RendererSame

theorem refl (s : ClientState config Pixel) : RendererSame s s :=
  ⟨rfl, rfl, rfl, rfl, rfl⟩

end RendererSame

namespace ClientState

theorem acceptContentEpoch_rendererSame (s : ClientState config Pixel)
    (epoch : Nat) (owner : ContentOwner) :
    RendererSame s (s.acceptContentEpoch epoch owner) := by
  unfold acceptContentEpoch
  split
  · exact ⟨rfl, rfl, rfl, rfl, rfl⟩
  · exact .refl s

theorem offerContentEpoch_rendererSame (s : ClientState config Pixel)
    (epoch : Nat) (owner : ContentOwner) :
    RendererSame s (s.offerContentEpoch epoch owner) := by
  unfold offerContentEpoch
  split
  · exact .refl s
  · exact s.acceptContentEpoch_rendererSame epoch owner

theorem publishVideoFrame_rendererSame (s : ClientState config Pixel) :
    RendererSame s s.publishVideoFrame := by
  unfold publishVideoFrame
  split
  · exact .refl s
  · exact ⟨rfl, rfl, rfl, rfl, rfl⟩

theorem receiveDatagram_rendererSame (s : ClientState config Pixel)
    (tile : CompletedTile Pixel) :
    RendererSame s (s.receiveDatagram tile) := by
  unfold receiveDatagram
  split
  · split
    · exact .refl s
    · obtain ⟨render, texture, presented, uploaded, claimed⟩ :=
        s.acceptContentEpoch_rendererSame tile.contentEpoch .tiles
      exact ⟨render, texture, presented, uploaded, claimed⟩
  · exact .refl s

theorem reassemble_rendererSame (s : ClientState config Pixel)
    (tile : CompletedTile Pixel) : RendererSame s (s.reassemble tile) := by
  unfold reassemble
  split <;> exact ⟨rfl, rfl, rfl, rfl, rfl⟩

theorem publish_rendererSame (s : ClientState config Pixel)
    (tile : CompletedTile Pixel) : RendererSame s (s.publish tile) := by
  unfold publish
  split
  · exact ⟨rfl, rfl, rfl, rfl, rfl⟩
  · split <;> exact ⟨rfl, rfl, rfl, rfl, rfl⟩

theorem markDirty_rendererSame (s : ClientState config Pixel)
    (tile : CompletedTile Pixel) (rect : Rect) :
    RendererSame s (s.markDirty tile rect) := by
  unfold markDirty
  split <;> exact ⟨rfl, rfl, rfl, rfl, rfl⟩

theorem receiveStep_rendererSame (s : ClientState config Pixel) :
    RendererSame s s.receiveStep := by
  unfold receiveStep
  split
  · exact .refl s
  · exact s.reassemble_rendererSame _
  · exact s.publish_rendererSame _
  · exact ⟨rfl, rfl, rfl, rfl, rfl⟩
  · exact s.markDirty_rendererSame _ _
  · exact ⟨rfl, rfl, rfl, rfl, rfl⟩
  · exact ⟨rfl, rfl, rfl, rfl, rfl⟩

end ClientState

def ClientEvent.isRender : ClientEvent Pixel → Bool
  | .render _ => true
  | _ => false

theorem step_rendererSame (s : ClientState config Pixel)
    {event : ClientEvent Pixel} (other : event.isRender = false) :
    RendererSame s (s.step event) := by
  cases event with
  | datagram tile => exact s.receiveDatagram_rendererSame tile
  | receive => exact s.receiveStep_rendererSame
  | render input => cases other
  | offerContentEpoch epoch owner =>
      exact s.offerContentEpoch_rendererSame epoch owner
  | endVideoStream => exact ⟨rfl, rfl, rfl, rfl, rfl⟩
  | publishVideoFrame => exact s.publishVideoFrame_rendererSame

/-! ## Steps of the render thread -/

structure ReceiverSame (s s' : ClientState config Pixel) : Prop where
  remote : s'.remote = s.remote
  ownership : s'.ownership = s.ownership
  received : s'.receivedGeneration = s.receivedGeneration
  receive : s'.receive = s.receive
  recorded : s'.trace.recorded = s.trace.recorded
  dirtyEpoch : s'.pendingDirtyEpoch = s.pendingDirtyEpoch

namespace ClientState

theorem withRender_receiverSame (s : ClientState config Pixel)
    (render : RenderThread Pixel) : ReceiverSame s (s.withRender render) :=
  ⟨rfl, rfl, rfl, rfl, rfl, rfl⟩

theorem beginPass_receiverSame (s : ClientState config Pixel)
    (input : RenderInput) : ReceiverSame s (s.beginPass input) := by
  unfold beginPass
  dsimp only
  split
  · exact s.withRender_receiverSame _
  · split <;> exact ⟨rfl, rfl, rfl, rfl, rfl, rfl⟩

theorem pollVideo_receiverSame (s : ClientState config Pixel)
    (input : RenderInput) : ReceiverSame s (s.pollVideo input) := by
  unfold pollVideo
  split
  · exact s.withRender_receiverSame _
  · split
    · exact ⟨rfl, rfl, rfl, rfl, rfl, rfl⟩
    · exact s.withRender_receiverSame _
    · exact ⟨rfl, rfl, rfl, rfl, rfl, rfl⟩
    · exact s.withRender_receiverSame _
    · split <;> exact ⟨rfl, rfl, rfl, rfl, rfl, rfl⟩

theorem uploadNext_receiverSame (s : ClientState config Pixel)
    (input : RenderInput) : ReceiverSame s (s.uploadNext input) := by
  unfold uploadNext
  split
  · unfold finishUploads
    split <;> exact s.withRender_receiverSame _
  · split
    · exact s.withRender_receiverSame _
    · split
      · exact s.withRender_receiverSame _
      · exact ⟨rfl, rfl, rfl, rfl, rfl, rfl⟩

theorem claimFor_receiverSame (s : ClientState config Pixel)
    (tileIds : List Nat) (stage : RenderStage) :
    ReceiverSame s (s.claimFor tileIds stage) :=
  ⟨rfl, rfl, rfl, rfl, rfl, rfl⟩

theorem takeDirty_receiverSame (s : ClientState config Pixel) :
    ReceiverSame s s.takeDirty := by
  unfold takeDirty
  split
  · exact ⟨rfl, rfl, rfl, rfl, rfl, rfl⟩
  · exact s.withRender_receiverSame _

theorem claimUpload_receiverSame (s : ClientState config Pixel) :
    ReceiverSame s s.claimUpload := by
  unfold claimUpload
  split
  · exact s.claimFor_receiverSame _ _
  · split
    · exact s.withRender_receiverSame _
    · exact s.claimFor_receiverSame _ _

theorem updateTexture_receiverSame (s : ClientState config Pixel)
    (input : RenderInput) : ReceiverSame s (s.updateTexture input) := by
  unfold updateTexture
  split <;> exact ⟨rfl, rfl, rfl, rfl, rfl, rfl⟩

theorem checkOwnership_receiverSame (s : ClientState config Pixel) :
    ReceiverSame s s.checkOwnership := by
  unfold checkOwnership
  split
  · unfold abandonUpload
    split <;> exact s.withRender_receiverSame _
  · split <;> exact s.withRender_receiverSame _

theorem presentFrame_receiverSame (s : ClientState config Pixel)
    (input : RenderInput) : ReceiverSame s (s.presentFrame input) := by
  unfold presentFrame
  split <;> exact ⟨rfl, rfl, rfl, rfl, rfl, rfl⟩

theorem renderStep_receiverSame (s : ClientState config Pixel)
    (input : RenderInput) : ReceiverSame s (s.renderStep input) := by
  unfold renderStep
  split
  · exact s.beginPass_receiverSame input
  · exact s.pollVideo_receiverSame input
  · exact s.withRender_receiverSame _
  · exact ⟨rfl, rfl, rfl, rfl, rfl, rfl⟩
  · exact s.uploadNext_receiverSame input
  · exact s.claimFor_receiverSame _ _
  · exact s.takeDirty_receiverSame
  · exact s.withRender_receiverSame _
  · exact s.claimUpload_receiverSame
  · exact ⟨rfl, rfl, rfl, rfl, rfl, rfl⟩
  · exact s.updateTexture_receiverSame input
  · exact s.checkOwnership_receiverSame
  · exact ⟨rfl, rfl, rfl, rfl, rfl, rfl⟩
  · exact s.presentFrame_receiverSame input
  · exact ⟨rfl, rfl, rfl, rfl, rfl, rfl⟩

end ClientState

end WayDisplay.Client
