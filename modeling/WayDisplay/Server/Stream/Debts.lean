import WayDisplay.Server.ModeTransitions
import WayDisplay.Server.Stream.Owner

/-!
Refreshes that are owed to the client.

Damage that arrives behind a tile recovery is compared with the shadow and not
queued: the client is owed a refresh.  The debt is a pending refresh, or the
deferral flag of the recovery, and it is settled when a refresh starts, when a
keyframe takes the display, and when the client leaves.
-/

namespace WayDisplay.Server

open Common Foundation

/-! ## Resets -/

namespace StreamPolicy

theorem planResume_sameDebt (policy : StreamPolicy) (connected resize : Bool) :
    SameDebt policy (policy.planResume connected resize) := by
  unfold planResume
  split_ifs <;> exact ⟨rfl, rfl, rfl⟩

theorem restartPlannedRecovery_keepsDebt (policy : StreamPolicy)
    (resize : Bool) :
    KeepsDebt policy (policy.restartPlannedRecovery resize) := by
  unfold restartPlannedRecovery
  split_ifs
  · refine ⟨fun _ => rfl, fun _ => Or.inr rfl, fun deferred => ?_,
      fun owns notOwns => absurd (owns.symm.trans notOwns) (by simp)⟩
    cases deferred
  · exact SameDebt.keepsDebt ⟨rfl, rfl, rfl⟩

variable {policy : StreamPolicy}

theorem resetVideo_keepsDebt (wellFormed : policy.WellFormed) (resize : Bool) :
    KeepsDebt policy (policy.resetVideo true resize) := by
  have cleared : KeepsDebt policy policy.clearModeCounters :=
    SameDebt.keepsDebt ⟨rfl, rfl, rfl⟩
  have planned := cleared.trans
    (policy.clearModeCounters.planResume_sameDebt true resize).keepsDebt
  unfold resetVideo
  by_cases tiles : policy.streamMode = .tiles
  · rw [if_pos tiles]
    exact planned
  · rw [if_neg tiles, if_pos rfl]
    have restarted := planned.trans
      (restartPlannedRecovery_keepsDebt _ resize)
    refine restarted.trans ?_
    have kept := restarted.wellFormed wellFormed
    generalize (policy.clearModeCounters.planResume true
      resize).restartPlannedRecovery resize = restarted' at kept ⊢
    by_cases recovering : restarted'.streamMode = .tileRecovery
    · rw [setMode, if_pos recovering]
      exact SameDebt.keepsDebt ⟨rfl, rfl, rfl⟩
    · exact setMode_keepsDebt_of_ne _ _ kept recovering

theorem setMode_wellFormed (wellFormed : policy.WellFormed) (mode : StreamMode)
    (recoveryClass : VideoRecoveryClass) :
    (policy.setMode mode recoveryClass).WellFormed := by
  unfold setMode
  split_ifs
  · exact wellFormed
  · intro deferred
    cases deferred

theorem resetVideo_wellFormed (wellFormed : policy.WellFormed)
    (connected resize : Bool) :
    (policy.resetVideo connected resize).WellFormed := by
  have cleared : KeepsDebt policy policy.clearModeCounters :=
    SameDebt.keepsDebt ⟨rfl, rfl, rfl⟩
  have planned := cleared.trans
    (policy.clearModeCounters.planResume_sameDebt connected resize).keepsDebt
  unfold resetVideo
  by_cases tiles : policy.streamMode = .tiles
  · rw [if_pos tiles]
    exact planned.wellFormed wellFormed
  · rw [if_neg tiles]
    exact setMode_wellFormed ((planned.trans
      (restartPlannedRecovery_keepsDebt _ resize)).wellFormed wellFormed) _ _

/-! ## Passes and video frames -/

theorem startRefresh_wellFormed (wellFormed : policy.WellFormed)
    (epoch generation : Nat) :
    (policy.startRefresh epoch generation).WellFormed := by
  intro deferred
  have before : policy.tileRecoveryLiveDamageDeferred = true := by
    simp only [startRefresh, Bool.and_eq_true] at deferred
    exact deferred.2
  exact wellFormed before

theorem noteBootstrapSent_sameDebt (policy : StreamPolicy)
    (queuesEmpty : Bool) :
    SameDebt policy (policy.noteBootstrapSent queuesEmpty) := by
  unfold noteBootstrapSent
  split_ifs <;> exact ⟨rfl, rfl, rfl⟩

theorem restartRecovery_keepsDebt (policy : StreamPolicy) :
    KeepsDebt policy policy.restartRecovery :=
  ⟨fun _ => rfl, fun _ => Or.inr rfl, fun deferred => ⟨deferred, rfl⟩,
    fun _ _ => rfl⟩

theorem trackKeyframe_sameDebt (policy : StreamPolicy) (frameId : Nat)
    (keyframe : Bool) :
    SameDebt policy (policy.trackKeyframe frameId keyframe) := by
  unfold trackKeyframe
  split_ifs <;> exact ⟨rfl, rfl, rfl⟩

theorem KeepsDebt.refl (policy : StreamPolicy) : KeepsDebt policy policy :=
  SameDebt.keepsDebt ⟨rfl, rfl, rfl⟩

end StreamPolicy

end WayDisplay.Server
