import WayDisplay.Client.Presentation.Steps

/-!
What a render pass claims, it commits or puts back.

The pass keeps the generations it has claimed in one list until it presents,
fails or finds itself stale.  The second claim of a pass starts that list anew:
a pass that uploads tiles directly and then from the framebuffer loses what its
first claim took.  In passes that claim at most once with effect, nothing is
lost on any way out.
-/

namespace WayDisplay.Client

open Common Foundation

variable {config : ServerConfig} {Pixel : Type}

/-! ## The order of a pass -/

def RenderStage.ends : RenderStage → Bool
  | .idle | .stopped => true
  | _ => false

namespace RenderThread

def Due (render : RenderThread Pixel) : Prop :=
  render.localFrameDirty = true ∨ render.remoteFrameDirty = true

/-- Where updates can be at each stage, and that a pass which has some will not
end without presenting them. -/
def Orderly (render : RenderThread Pixel) : Prop :=
  match render.stage with
  | .idle | .requeueing | .presenting | .stopped => True
  | .polling | .deciding | .draining | .uploading =>
      render.tileGenerationUpdates = [] ∧ render.Due
  | .claimingDirect =>
      render.tileGenerationUpdates = [] ∧ render.Due ∧
        render.directTileRects ≠ []
  | .taking | .planning =>
      (render.tileGenerationUpdates ≠ [] → render.directTileRects ≠ []) ∧
        render.Due
  | .claiming =>
      (render.tileGenerationUpdates ≠ [] → render.directTileRects ≠ []) ∧
        (render.directTileRects ≠ [] ∨ render.uploadFull = true ∨
          render.dirtyRects ≠ [] → render.Due)
  | .clearing | .updating => render.Due
  | .checking =>
      render.tileGenerationUpdates ≠ [] → render.localFrameDirty = true ∨
        render.remoteTextureUpdated = true

end RenderThread

namespace ClientState

variable {s : ClientState config Pixel}

theorem beginPass_orderly (stage : s.render.stage = .idle) (input : RenderInput) :
    (s.beginPass input).render.Orderly := by
  unfold beginPass
  dsimp only
  split
  next => simp [withRender, RenderThread.Orderly, stage]
  next due =>
    have started : (s.freshPass input).localFrameDirty = true ∨
        (s.freshPass input).remoteFrameDirty = true := by
      rw [Bool.not_eq_true, Bool.not_eq_false', Bool.or_eq_true] at due
      exact due
    split
    · exact ⟨rfl, started⟩
    · exact fun some => absurd rfl some

theorem pollVideo_orderly (stage : s.render.stage = .polling)
    (orderly : s.render.Orderly) (input : RenderInput) :
    (s.pollVideo input).render.Orderly := by
  simp only [RenderThread.Orderly, stage] at orderly
  obtain ⟨none, due⟩ := orderly
  unfold pollVideo
  split
  · exact ⟨none, due⟩
  · split
    · exact ⟨none, due⟩
    · exact fun some => absurd none some
    · exact fun some => absurd none some
    · trivial
    · split
      · exact fun some => absurd none some
      · exact ⟨none, due⟩

theorem decideUpload_orderly (stage : s.render.stage = .deciding)
    (orderly : s.render.Orderly) :
    s.decideUpload.render.Orderly := by
  simp only [RenderThread.Orderly, stage] at orderly
  obtain ⟨none, due⟩ := orderly
  by_cases allow : s.allowsTileUpload = true
  · simp only [decideUpload, withRender, RenderThread.Orderly, allow, if_true]
    exact ⟨none, due⟩
  · simp only [decideUpload, withRender, RenderThread.Orderly, allow]
    exact ⟨fun some => absurd none some, due⟩

theorem drainQueue_orderly (stage : s.render.stage = .draining)
    (orderly : s.render.Orderly) :
    s.drainQueue.render.Orderly := by
  simp only [RenderThread.Orderly, stage] at orderly
  exact orderly

theorem uploadNext_orderly (stage : s.render.stage = .uploading)
    (orderly : s.render.Orderly) (input : RenderInput) :
    (s.uploadNext input).render.Orderly := by
  simp only [RenderThread.Orderly, stage] at orderly
  obtain ⟨none, due⟩ := orderly
  unfold uploadNext
  split
  · unfold finishUploads
    split
    next => exact ⟨fun some => absurd none some, due⟩
    next some => exact ⟨none, due, fun empty =>
      some (List.isEmpty_iff.mpr empty)⟩
  · split
    · simp only [skipUpload, withRender, RenderThread.Orderly, stage]
      exact ⟨none, due⟩
    · split
      · trivial
      · simp only [applyUpload, RenderThread.Orderly, stage]
        exact ⟨none, due⟩

theorem claimDirect_orderly (stage : s.render.stage = .claimingDirect)
    (orderly : s.render.Orderly) :
    s.claimDirect.render.Orderly := by
  simp only [RenderThread.Orderly, stage] at orderly
  exact ⟨fun _ => orderly.2.2, orderly.2.1⟩

theorem takeDirty_orderly (stage : s.render.stage = .taking)
    (orderly : s.render.Orderly) :
    s.takeDirty.render.Orderly := by
  simp only [RenderThread.Orderly, stage] at orderly
  unfold takeDirty
  split <;> exact orderly

theorem planUpload_orderly (stage : s.render.stage = .planning)
    (orderly : s.render.Orderly) (input : RenderInput) :
    (s.planUpload input).render.Orderly := by
  simp only [RenderThread.Orderly, stage] at orderly
  refine ⟨orderly.1, fun work => ?_⟩
  rcases orderly.2 with locally | remotely
  · exact Or.inl locally
  · refine Or.inr ?_
    simp only [planUpload, withRender, remoteFrameStillDirty, remotely,
      directTileUpdated, Bool.true_and, Bool.or_eq_true, bne_iff_ne, ne_eq,
      List.length_eq_zero_iff, Bool.not_eq_true', List.isEmpty_eq_false_iff]
    rcases work with direct | full | dirty
    · exact Or.inl (Or.inl (Or.inl direct))
    · simp only [planUpload, withRender, selectsFull, Bool.and_eq_true,
        Bool.or_eq_true, Bool.not_eq_true', List.isEmpty_eq_false_iff] at full
      tauto
    · exact Or.inr dirty

theorem finishTiles_orderly {updated : Bool}
    (due : s.render.tileGenerationUpdates ≠ [] → updated = true ∧ s.render.Due) :
    (s.finishTiles updated).render.Orderly := by
  intro some
  obtain ⟨rfl, locally | remotely⟩ := due some
  · exact Or.inl locally
  · refine Or.inr ?_
    simp [finishTiles, withRender, remotely]

theorem claimUpload_orderly (stage : s.render.stage = .claiming)
    (orderly : s.render.Orderly) :
    s.claimUpload.render.Orderly := by
  simp only [RenderThread.Orderly, stage] at orderly
  obtain ⟨direct, due⟩ := orderly
  unfold claimUpload
  split
  next full => exact due (Or.inr (Or.inl full))
  next =>
    split
    next =>
      refine finishTiles_orderly fun some => ⟨?_, due (Or.inl (direct some))⟩
      simpa [directTileUpdated] using direct some
    next dirty => exact due (Or.inr (Or.inr (by simpa using dirty)))

theorem updateTexture_orderly (stage : s.render.stage = .updating)
    (orderly : s.render.Orderly) (input : RenderInput) :
    (s.updateTexture input).render.Orderly := by
  simp only [RenderThread.Orderly, stage] at orderly
  unfold updateTexture
  split
  · trivial
  · exact finishTiles_orderly fun _ => ⟨rfl, orderly⟩

theorem checkOwnership_orderly (s : ClientState config Pixel) :
    s.checkOwnership.render.Orderly := by
  unfold checkOwnership
  split
  · unfold abandonUpload
    split <;> trivial
  · split <;> trivial

theorem presentFrame_orderly (s : ClientState config Pixel)
    (input : RenderInput) : (s.presentFrame input).render.Orderly := by
  unfold presentFrame
  split <;> trivial

theorem renderStep_orderly (orderly : s.render.Orderly) (input : RenderInput) :
    (s.renderStep input).render.Orderly := by
  unfold renderStep
  split
  next stage => exact beginPass_orderly stage input
  next stage => exact pollVideo_orderly stage orderly input
  next stage => exact decideUpload_orderly stage orderly
  next stage => exact drainQueue_orderly stage orderly
  next stage => exact uploadNext_orderly stage orderly input
  next stage => exact claimDirect_orderly stage orderly
  next stage => exact takeDirty_orderly stage orderly
  next stage => exact planUpload_orderly stage orderly input
  next stage => exact claimUpload_orderly stage orderly
  next stage =>
    simp only [RenderThread.Orderly, stage] at orderly
    exact orderly
  next stage => exact updateTexture_orderly stage orderly input
  next => exact s.checkOwnership_orderly
  next => trivial
  next => exact s.presentFrame_orderly input
  next => exact orderly

/-! ## Claimed generations -/

def Kept (s : ClientState config Pixel) : Prop :=
  ∀ update ∈ s.trace.claimed, update ∈ s.render.tileGenerationUpdates ∧
    update.tileId < config.totalTiles

/-- What the pass has claimed is presented, or pending again. -/
def ClaimsSettled (s : ClientState config Pixel) : Prop :=
  ∀ update ∈ s.trace.claimed,
    update.generation ≤ s.presentedGeneration update.tileId ∨
      update.generation ≤ s.pendingPresentGeneration update.tileId

def passEnded (s : ClientState config Pixel) : Prop :=
  s.render.stage.ends = true

instance (s : ClientState config Pixel) : Decidable s.passEnded :=
  inferInstanceAs (Decidable (_ = _))

theorem passEnded_of_stage {stage : RenderStage}
    (stays : s.render.stage = stage) (ends : stage.ends = true) :
    s.passEnded := by
  rw [passEnded, stays, ends]

/-- A pass that goes on keeps its claims, one that ends has settled them. -/
structure Accounts (s : ClientState config Pixel) : Prop where
  kept : ¬s.passEnded → s.Kept
  settled : s.passEnded → s.trace.passOwnedByTiles = true → s.ClaimsSettled

theorem Kept.settled_of_none (kept : s.Kept)
    (none : s.render.tileGenerationUpdates = []) : s.ClaimsSettled := by
  intro update member
  have listed := (kept update member).1
  rw [none] at listed
  exact absurd listed List.not_mem_nil

variable {s s' : ClientState config Pixel}

theorem Kept.congr (kept : s.Kept)
    (claimed : s'.trace.claimed = s.trace.claimed)
    (updates : s'.render.tileGenerationUpdates = s.render.tileGenerationUpdates) :
    s'.Kept := by
  intro update member
  rw [updates]
  exact kept update (claimed ▸ member)

theorem Kept.continue (kept : s.Kept)
    (claimed : s'.trace.claimed = s.trace.claimed)
    (updates : s'.render.tileGenerationUpdates = s.render.tileGenerationUpdates)
    (going : ¬s'.passEnded) :
    s'.Accounts :=
  ⟨fun _ => kept.congr claimed updates, fun ended => absurd ended going⟩

theorem Kept.withoutUpdates (kept : s.Kept)
    (claimed : s'.trace.claimed = s.trace.claimed)
    (updates : s'.render.tileGenerationUpdates = s.render.tileGenerationUpdates)
    (none : s.render.tileGenerationUpdates = []) : s'.Accounts :=
  ⟨fun _ => kept.congr claimed updates, fun _ _ =>
    (kept.congr claimed updates).settled_of_none (updates.trans none)⟩

theorem putBackUpdates_settled {s s' : ClientState config Pixel}
    (kept : s.Kept) (claimed : s'.trace.claimed = s.trace.claimed)
    (pending : s'.pendingPresentGeneration =
      requeueTileGenerationUpdates config.totalTiles
        s.pendingPresentGeneration s.render.tileGenerationUpdates) :
    s'.ClaimsSettled := by
  intro update member
  obtain ⟨listed, inside⟩ := kept update (claimed ▸ member)
  refine Or.inr ?_
  rw [pending]
  exact (foldl_raiseGeneration _ _).2.1 update listed inside

theorem commitUpdates_settled {s s' : ClientState config Pixel}
    (kept : s.Kept) (claimed : s'.trace.claimed = s.trace.claimed)
    (presented : s'.presentedGeneration =
      commitTileGenerationUpdates config.totalTiles
        s.presentedGeneration s.render.tileGenerationUpdates) :
    s'.ClaimsSettled := by
  intro update member
  obtain ⟨listed, inside⟩ := kept update (claimed ▸ member)
  refine Or.inl ?_
  rw [presented]
  exact (foldl_raiseGeneration _ _).2.1 update listed inside

theorem claimFor_accounts (kept : s.Kept)
    (none : s.render.tileGenerationUpdates = []) (tileIds : List Nat)
    {stage : RenderStage} (going : stage.ends = false) :
    (s.claimFor tileIds stage).Accounts := by
  refine ⟨fun _ update member => ?_, fun ended => ?_⟩
  · rcases List.mem_append.mp member with old | new
    · have listed := (kept update old).1
      rw [none] at listed
      exact absurd listed List.not_mem_nil
    · exact ⟨new, (mem_claim.mp new).2.1⟩
  · exact absurd (going.symm.trans ended) Bool.false_ne_true

/-! ## Steps of the pass -/

theorem beginPass_kept (stage : s.render.stage = .idle) (input : RenderInput)
    (going : ¬(s.beginPass input).passEnded) : (s.beginPass input).Kept := by
  unfold beginPass at going ⊢
  dsimp only at going ⊢
  split at going
  next => exact absurd (passEnded_of_stage stage rfl) going
  next started =>
    rw [if_neg started]
    split <;> exact fun update member => absurd member List.not_mem_nil

theorem pollVideo_accounts (kept : s.Kept)
    (none : s.render.tileGenerationUpdates = []) (input : RenderInput) :
    (s.pollVideo input).Accounts := by
  unfold pollVideo
  split
  · exact kept.withoutUpdates rfl rfl none
  · split
    · exact kept.withoutUpdates rfl rfl none
    · exact kept.withoutUpdates rfl rfl none
    · exact kept.withoutUpdates rfl rfl none
    · exact kept.withoutUpdates rfl rfl none
    · split <;> exact kept.withoutUpdates rfl rfl none

theorem uploadNext_accounts (kept : s.Kept)
    (none : s.render.tileGenerationUpdates = []) (input : RenderInput) :
    (s.uploadNext input).Accounts := by
  unfold uploadNext
  split
  · unfold finishUploads
    split <;> exact kept.withoutUpdates rfl rfl none
  · split
    · exact kept.withoutUpdates rfl rfl none
    · split <;> exact kept.withoutUpdates rfl rfl none

theorem takeDirty_accounts (kept : s.Kept) :
    s.takeDirty.Accounts := by
  unfold takeDirty
  split <;> exact kept.continue rfl rfl Bool.false_ne_true

theorem claimUpload_accounts {s : ClientState config Pixel} (kept : s.Kept)
    (once : s.render.tileGenerationUpdates = [] ∨
      s.render.uploadFull = false ∧ s.render.dirtyRects = []) :
    s.claimUpload.Accounts := by
  unfold claimUpload
  rcases once with none | ⟨partly, clean⟩
  · split
    · exact claimFor_accounts kept none _ rfl
    · split
      · exact kept.continue rfl rfl Bool.false_ne_true
      · exact claimFor_accounts kept none _ rfl
  · rw [if_neg (by rw [partly]; decide), if_pos (by rw [clean]; rfl)]
    exact kept.continue rfl rfl Bool.false_ne_true

theorem updateTexture_accounts (kept : s.Kept) (input : RenderInput) :
    (s.updateTexture input).Accounts := by
  unfold updateTexture
  split
  · exact ⟨fun going => absurd rfl going,
      fun _ _ => putBackUpdates_settled kept rfl rfl⟩
  · exact kept.continue rfl rfl Bool.false_ne_true

theorem checkOwnership_accounts (kept : s.Kept)
    (stage : s.render.stage = .checking) (orderly : s.render.Orderly)
    (unowned : s.ownership.owner = .video → s.trace.passOwnedByTiles = false) :
    s.checkOwnership.Accounts := by
  simp only [RenderThread.Orderly, stage] at orderly
  unfold checkOwnership
  split
  · unfold abandonUpload
    split
    next => exact kept.continue rfl rfl Bool.false_ne_true
    next foreign =>
      have video : s.ownership.owner = .video := by
        cases owner : s.ownership.owner
        · exact absurd owner foreign
        · rfl
      refine ⟨fun going => absurd rfl going, fun _ owned => ?_⟩
      exact absurd ((unowned video).symm.trans owned) Bool.false_ne_true
  · split
    next => exact kept.continue rfl rfl Bool.false_ne_true
    next quiet =>
      refine kept.withoutUpdates rfl rfl ?_
      by_contra some
      exact quiet (Bool.or_eq_true_iff.mpr (orderly some))

theorem presentFrame_accounts (kept : s.Kept) (input : RenderInput) :
    (s.presentFrame input).Accounts := by
  unfold presentFrame
  split
  · exact ⟨fun going => absurd rfl going,
      fun _ _ => putBackUpdates_settled kept rfl rfl⟩
  · exact ⟨fun going => absurd rfl going,
      fun _ _ => commitUpdates_settled kept rfl rfl⟩

/-! ## Passes of a run -/

structure Conserving (s : ClientState config Pixel) : Prop where
  unowned : s.ownership.owner = .video → s.trace.passOwnedByTiles = false
  orderly : s.render.Orderly
  kept : ¬s.passEnded → s.Kept

def ClaimsOnce (s : ClientState config Pixel) : ClientEvent Pixel → Prop
  | .render _ => s.render.stage = .claiming →
      s.render.tileGenerationUpdates = [] ∨
        s.render.uploadFull = false ∧ s.render.dirtyRects = []
  | _ => True

instance (s : ClientState config Pixel) (event : ClientEvent Pixel) :
    Decidable (s.ClaimsOnce event) :=
  decidable_of_iff ((match event with
    | .render _ => decide (s.render.stage = .claiming →
        s.render.tileGenerationUpdates = [] ∨
          s.render.uploadFull = false ∧ s.render.dirtyRects = [])
    | _ => true) = true)
    (by cases event <;> simp only [ClaimsOnce, decide_eq_true_eq])

theorem renderStep_accounts (conserving : s.Conserving) (going : ¬s.passEnded)
    (input : RenderInput) (once : s.ClaimsOnce (.render input)) :
    (s.renderStep input).Accounts := by
  have kept := conserving.kept going
  have orderly := conserving.orderly
  have ordered := orderly
  unfold renderStep
  split <;> rename_i stage <;>
    simp only [RenderThread.Orderly, stage] at ordered
  · exact absurd (passEnded_of_stage stage rfl) going
  · exact pollVideo_accounts kept ordered.1 input
  · exact kept.withoutUpdates rfl rfl ordered.1
  · exact kept.withoutUpdates rfl rfl ordered.1
  · exact uploadNext_accounts kept ordered.1 input
  · exact claimFor_accounts kept ordered.1 _ rfl
  · exact takeDirty_accounts kept
  · exact kept.continue rfl rfl Bool.false_ne_true
  · exact claimUpload_accounts kept (once stage)
  · exact kept.continue rfl rfl Bool.false_ne_true
  · exact updateTexture_accounts kept input
  · exact checkOwnership_accounts kept stage orderly conserving.unowned
  · exact ⟨fun going => absurd rfl going,
      fun _ _ => putBackUpdates_settled kept rfl rfl⟩
  · exact presentFrame_accounts kept input
  · exact absurd (passEnded_of_stage stage rfl) going

theorem renderStep_kept (conserving : s.Conserving) (input : RenderInput)
    (once : s.ClaimsOnce (.render input))
    (going : ¬(s.renderStep input).passEnded) : (s.renderStep input).Kept := by
  by_cases ended : s.passEnded
  · unfold renderStep at going ⊢
    split at going <;> rename_i stage
    · exact beginPass_kept stage input going
    all_goals try exact absurd (ended.symm.trans
      (congrArg RenderStage.ends stage)) (by decide)
    exact absurd (passEnded_of_stage stage rfl) going
  · exact (renderStep_accounts conserving ended input once).kept going

def UnownedByVideo (s : ClientState config Pixel) : Prop :=
  s.ownership.owner = .video → s.trace.passOwnedByTiles = false

theorem acceptContentEpoch_unowned (unowned : s.UnownedByVideo) (epoch : Nat)
    (owner : ContentOwner) :
    (s.acceptContentEpoch epoch owner).UnownedByVideo := by
  unfold acceptContentEpoch
  split
  · intro video
    change owner = .video at video
    simp [resetPendingContent, video]
  · exact unowned

theorem endVideoStream_unowned (s : ClientState config Pixel) :
    s.endVideoStream.UnownedByVideo := by
  intro video
  simp only [endVideoStream, StreamOwnership.endVideoStream,
    StreamOwnership.transitionTo] at video
  split at video
  next tiles => exact absurd (tiles.symm.trans video) (by decide)
  next => cases video

theorem receiveStep_owned (s : ClientState config Pixel) :
    s.receiveStep.ownership = s.ownership ∧
      s.receiveStep.trace.passOwnedByTiles = s.trace.passOwnedByTiles := by
  unfold receiveStep
  split
  · exact ⟨rfl, rfl⟩
  · unfold reassemble
    split <;> exact ⟨rfl, rfl⟩
  · unfold publish
    split
    · exact ⟨rfl, rfl⟩
    · split <;> exact ⟨rfl, rfl⟩
  · exact ⟨rfl, rfl⟩
  · unfold markDirty
    split <;> exact ⟨rfl, rfl⟩
  · exact ⟨rfl, rfl⟩
  · exact ⟨rfl, rfl⟩

theorem beginPass_unowned (unowned : s.UnownedByVideo) (input : RenderInput) :
    (s.beginPass input).UnownedByVideo := by
  have fresh : s.ownership.owner = .video →
      (s.ownership.owner == ContentOwner.tiles) = false := by
    intro video
    rw [video]
    rfl
  unfold beginPass
  dsimp only
  split
  · exact unowned
  · split <;> exact fresh

theorem renderStep_owned (input : RenderInput)
    (started : s.render.stage ≠ .idle) :
    (s.renderStep input).trace.passOwnedByTiles =
      s.trace.passOwnedByTiles := by
  unfold renderStep
  split
  next stage => exact absurd stage started
  next =>
    unfold pollVideo
    split
    · rfl
    · split
      all_goals first | rfl | (split <;> rfl)
  next => rfl
  next => rfl
  next =>
    unfold uploadNext
    split
    · unfold finishUploads
      split <;> rfl
    · split
      · rfl
      · split <;> rfl
  next => rfl
  next =>
    unfold takeDirty
    split <;> rfl
  next => rfl
  next =>
    unfold claimUpload
    split
    · rfl
    · split <;> rfl
  next => rfl
  next =>
    unfold updateTexture
    split <;> rfl
  next =>
    unfold checkOwnership abandonUpload
    split
    · split <;> rfl
    · split <;> rfl
  next => rfl
  next =>
    unfold presentFrame
    split <;> rfl
  next => rfl

theorem receiveDatagram_unowned (unowned : s.UnownedByVideo)
    (tile : CompletedTile Pixel) :
    (s.receiveDatagram tile).UnownedByVideo := by
  unfold receiveDatagram
  split
  · split
    · exact unowned
    · exact acceptContentEpoch_unowned unowned tile.contentEpoch .tiles
  · exact unowned

theorem offerContentEpoch_unowned (unowned : s.UnownedByVideo) (epoch : Nat)
    (owner : ContentOwner) :
    (s.offerContentEpoch epoch owner).UnownedByVideo := by
  unfold offerContentEpoch
  split
  · exact unowned
  · exact acceptContentEpoch_unowned unowned epoch owner

theorem publishVideoFrame_unowned (unowned : s.UnownedByVideo) :
    s.publishVideoFrame.UnownedByVideo := by
  unfold publishVideoFrame
  split <;> exact unowned

theorem step_unowned (unowned : s.UnownedByVideo) (event : ClientEvent Pixel) :
    (s.step event).UnownedByVideo := by
  cases event with
  | datagram tile => exact receiveDatagram_unowned unowned tile
  | receive =>
      obtain ⟨ownership, owned⟩ := s.receiveStep_owned
      intro video
      exact owned.trans (unowned (ownership ▸ video))
  | render input =>
      by_cases stage : s.render.stage = .idle
      · have begun : s.step (.render input) = s.beginPass input := by
          rw [step, renderStep, stage]
        rw [begun]
        exact beginPass_unowned unowned input
      · intro video
        exact (renderStep_owned input stage).trans
          (unowned ((s.renderStep_receiverSame input).ownership ▸ video))
  | offerContentEpoch epoch owner =>
      exact offerContentEpoch_unowned unowned epoch owner
  | endVideoStream => exact s.endVideoStream_unowned
  | publishVideoFrame => exact publishVideoFrame_unowned unowned

theorem step_conserving {event : ClientEvent Pixel} (conserving : s.Conserving)
    (once : s.ClaimsOnce event) : (s.step event).Conserving := by
  have unowned := step_unowned conserving.unowned event
  by_cases renders : event.isRender = true
  · cases event with
    | render input =>
        exact ⟨unowned, renderStep_orderly conserving.orderly input,
          renderStep_kept conserving input once⟩
    | _ => cases renders
  · have same := step_rendererSame s (Bool.eq_false_iff.mpr renders)
    refine ⟨unowned, same.render ▸ conserving.orderly, fun going => ?_⟩
    rw [passEnded, same.render] at going
    exact (conserving.kept going).congr same.claimed
      (congrArg RenderThread.tileGenerationUpdates same.render)

/-- When an event ends a pass under tile ownership, what the pass has claimed
is presented or pending again. -/
def PassSettles (s : ClientState config Pixel) (event : ClientEvent Pixel) :
    Prop :=
  ¬s.passEnded → (s.step event).passEnded →
    (s.step event).trace.passOwnedByTiles = true →
      (s.step event).ClaimsSettled

theorem step_passSettles {event : ClientEvent Pixel} (conserving : s.Conserving)
    (once : s.ClaimsOnce event) : s.PassSettles event := by
  intro going ended owned
  by_cases renders : event.isRender = true
  · cases event with
    | render input =>
        exact (renderStep_accounts conserving going input once).settled ended
          owned
    | _ => cases renders
  · have same := step_rendererSame s (Bool.eq_false_iff.mpr renders)
    rw [passEnded, same.render] at ended
    exact absurd ended going

theorem initial_conserving (clear : Pixel) (texture : Image Pixel)
    (contentEpoch ownershipEpoch : Nat) (hasFallbackTexture : Bool) :
    (initial config clear texture contentEpoch ownershipEpoch
      hasFallbackTexture).Conserving :=
  ⟨nofun, trivial, fun going => absurd rfl going⟩

/-- In every run in which no pass claims into a list that holds updates, every
pass that ends under tile ownership has settled its claims. -/
theorem passesSettle_of_claimsOnce (clear : Pixel) (texture : Image Pixel)
    (contentEpoch ownershipEpoch : Nat) (hasFallbackTexture : Bool)
    (events : List (ClientEvent Pixel))
    (once : Along step ClaimsOnce (initial config clear texture contentEpoch
      ownershipEpoch hasFallbackTexture) events) :
    Along step PassSettles (initial config clear texture contentEpoch
      ownershipEpoch hasFallbackTexture) events :=
  along_of_invariant (fun _ _ => step_conserving) (fun _ _ => step_passSettles)
    (initial_conserving clear texture contentEpoch ownershipEpoch
      hasFallbackTexture) once

instance (s : ClientState config Pixel) : Decidable s.ClaimsSettled :=
  inferInstanceAs (Decidable (∀ update ∈ s.trace.claimed, _ ∨ _))

instance (s : ClientState config Pixel) (event : ClientEvent Pixel) :
    Decidable (s.PassSettles event) :=
  inferInstanceAs (Decidable (_ → _))

def directPass : List (ClientEvent Nat) :=
  Script.firstPass ++ Script.complete (Script.solid 1 7) ++
    Script.rendering 12

def directThenFullPass : List (ClientEvent Nat) :=
  Script.complete (Script.solid 1 7) ++ Script.rendering 14

theorem directPass_settles :
    Along step ClaimsOnce Script.start directPass ∧
      Along step PassSettles Script.start directPass :=
  ⟨by decide +kernel, passesSettle_of_claimsOnce 0 (fun _ => ⟨0, 0⟩) 1 2 false
    directPass (by decide +kernel)⟩

/-- The second claim drops the generation that the first one took: it is
neither presented nor pending when the pass ends. -/
theorem directThenFullPass_loses_claim :
    ¬Along step PassSettles Script.start directThenFullPass := by
  decide +kernel

end ClientState

end WayDisplay.Client
