import WayDisplay.Server.Stream.WorkerSteps

/-!
The CPU framebuffer and the composed scene.

A frame that goes to the video encoder leaves the CPU framebuffer behind the
scene, and uses up the damage that would have refreshed it.  A readback refreshes
what its own damage covers.  A full refresh compares all of the framebuffer with
the shadow, so it is only as good as the readback before it.
-/

namespace WayDisplay.Server

open Common Foundation

namespace Capture

/-- The scene has moved on from what the framebuffer holds at a pixel. -/
def behind (capture : Capture) (x y : Nat) : Bool :=
  match capture.composed x y with
  | some pixel => capture.framebuffer x y != pixel
  | none => false

/-- The framebuffer shows the newest frame that was drawn at each pixel. -/
def Current (capture : Capture) (geometry : Geometry) : Prop :=
  ∀ x < geometry.displayWidth, ∀ y < geometry.displayHeight,
    capture.behind x y = false

instance (capture : Capture) (geometry : Geometry) :
    Decidable (capture.Current geometry) := by
  unfold Current
  infer_instance

theorem behind_congr {capture capture' : Capture}
    (framebuffer : capture'.framebuffer = capture.framebuffer)
    (composed : capture'.composed = capture.composed) (x y : Nat) :
    capture'.behind x y = capture.behind x y := by
  rw [behind, behind, framebuffer, composed]

theorem Current.congr {capture capture' : Capture} {geometry : Geometry}
    (current : capture.Current geometry)
    (framebuffer : capture'.framebuffer = capture.framebuffer)
    (composed : capture'.composed = capture.composed) :
    capture'.Current geometry := fun x onX y onY =>
  (behind_congr framebuffer composed x y).trans (current x onX y onY)

/-! ## Readback -/

theorem readbackRegions_covers {geometry : Geometry} {damage : SceneDamage}
    {x y : Nat} (onX : x < geometry.displayWidth)
    (onY : y < geometry.displayHeight)
    (hit : damage.hits (geometry.tileAt x y) = true) :
    (readbackRegions geometry damage).any (fun region => region.contains x y) =
      true := by
  obtain ⟨region, planned, inside⟩ := readbackPlanRegions_covers onX onY
    (Bool.or_eq_true_iff.mp hit) (damage.tileCount geometry)
    (by decide : 0 < readbackRegionCapacity)
  exact List.any_eq_true.mpr ⟨region, planned, inside⟩

theorem readback_behind_of_read {capture : Capture} {geometry : Geometry}
    {rendered : RenderedFrame} {damage : SceneDamage} {x y : Nat}
    (read : (!rendered.textureRead || (readbackRegions geometry damage).any
      fun region => region.contains x y) = true) :
    (capture.readback geometry rendered damage).behind x y = false := by
  simp only [behind, readback, if_pos read, buffer]
  cases capture.composed x y with
  | none => rfl
  | some pixel => simp

theorem readback_behind_of_not_read {capture : Capture} {geometry : Geometry}
    {rendered : RenderedFrame} {damage : SceneDamage} {x y : Nat}
    (read : ¬ (!rendered.textureRead || (readbackRegions geometry damage).any
      fun region => region.contains x y) = true) :
    (capture.readback geometry rendered damage).behind x y =
      capture.behind x y := by
  simp only [behind, readback, if_neg read]

theorem compose_behind_of_not_hit {capture : Capture} {geometry : Geometry}
    {rendered : RenderedFrame} {x y : Nat}
    (unhit : rendered.damage.hits (geometry.tileAt x y) = false) :
    (capture.compose geometry rendered).behind x y = capture.behind x y := by
  simp [behind, compose, unhit]

end Capture

namespace ServerState

/--
A frame that is read back by regions damages each tile in which earlier frames
have left the framebuffer behind.
-/
def DamagesStale (s : ServerState) : ServerEvent → Prop
  | .render (.frame rendered) =>
      s.mayRender = true → s.capturesOnGpu rendered = false →
        rendered.textureRead = true →
          ∀ x < s.geometry.displayWidth, ∀ y < s.geometry.displayHeight,
            s.capture.behind x y = true →
              (s.frameDamage rendered).hits (s.geometry.tileAt x y) = true
  | _ => True

instance (s : ServerState) (event : ServerEvent) :
    Decidable (s.DamagesStale event) := by
  unfold DamagesStale
  split <;> infer_instance

theorem captureFrame_current {s : ServerState} {rendered : RenderedFrame}
    (may : s.mayRender = true) (cpu : s.capturesOnGpu rendered = false)
    (damages : s.DamagesStale (.render (.frame rendered))) :
    (s.captureFrame rendered).Current s.geometry := by
  intro x onX y onY
  simp only [captureFrame, cpu, Bool.false_eq_true, if_false]
  by_cases read : (!rendered.textureRead || (Capture.readbackRegions s.geometry
      (s.frameDamage rendered)).any fun region => region.contains x y) = true
  · exact Capture.readback_behind_of_read read
  · rw [Capture.readback_behind_of_not_read read]
    simp only [Bool.or_eq_true, Bool.not_eq_true', not_or,
      Bool.not_eq_false] at read
    -- An unread pixel is undamaged, and by the condition it was current before.
    have unhit : (s.frameDamage rendered).hits (s.geometry.tileAt x y) =
        false := by
      by_contra hit
      exact read.2 (Capture.readbackRegions_covers onX onY (by simpa using hit))
    have undrawn : rendered.damage.hits (s.geometry.tileAt x y) = false := by
      by_contra hit
      have merged := (s.capture.damage.merge_hits rendered.damage _).mpr
        (Or.inr (by simpa using hit))
      exact absurd (merged.symm.trans unhit) (by simp)
    rw [Capture.compose_behind_of_not_hit undrawn]
    by_contra stale
    have hit := damages may cpu read.1 x onX y onY (by simpa using stale)
    exact absurd (hit.symm.trans unhit) (by simp)

end ServerState

/-! ## From the readback to the pass -/

def WorkerPhase.readsFramebuffer : WorkerPhase → Bool
  | .frameSubmitted frame | .forceRead frame _ => frame.cpuFramebufferRefreshed
  | .diffing _ _ => true
  | .analyzed analysis => analysis.changedTiles.isSome || analysis.fullRefresh
  | _ => false

theorem WorkerPhase.readsFramebuffer_of_isIdle {phase : WorkerPhase}
    (idle : phase.isIdle = true) : phase.readsFramebuffer = false := by
  cases phase with
  | idle => rfl
  | _ => cases idle

theorem WorkerPhase.readsFramebuffer_of_isSending {phase : WorkerPhase}
    (sending : phase.isSending = true) : phase.readsFramebuffer = false := by
  cases phase with
  | sending pass => rfl
  | _ => cases sending

namespace ServerState

/-- While the worker has a frame from the CPU, the framebuffer is current. -/
def FramesCurrent (s : ServerState) : Prop :=
  s.worker.readsFramebuffer = true → s.capture.Current s.geometry

theorem FramesCurrent.of_images {s s' : ServerState} (current : s.FramesCurrent)
    (geometry : s'.geometry = s.geometry)
    (framebuffer : s'.capture.framebuffer = s.capture.framebuffer)
    (composed : s'.capture.composed = s.capture.composed)
    (reads : s'.worker.readsFramebuffer = true →
      s.worker.readsFramebuffer = true) : s'.FramesCurrent := fun read =>
  geometry ▸ (current (reads read)).congr framebuffer composed

variable {s : ServerState}

theorem render_framesCurrent {outcome : RenderOutcome}
    (current : s.FramesCurrent) (damages : s.DamagesStale (.render outcome)) :
    (s.render outcome).FramesCurrent := by
  unfold render
  split_ifs with may
  · cases outcome with
    | notBuilt => exact current
    | noBuffer => exact current.of_images rfl rfl rfl id
    | notCaptured damage => exact current.of_images rfl rfl rfl id
    | frame rendered =>
        intro read
        have cpu : s.capturesOnGpu rendered = false := by
          simpa [submitFrame, WorkerPhase.readsFramebuffer] using read
        exact (captureFrame_current may cpu damages).congr rfl rfl
  · exact current

theorem checkShadow_framesCurrent (current : s.FramesCurrent) :
    s.checkShadow.FramesCurrent := by
  unfold checkShadow dropShadow
  split
  · next frame force phase =>
    split_ifs with skips unread
    · exact current.of_images rfl rfl rfl fun read => by cases read
    · exact current.of_images rfl rfl rfl fun read => by cases read
    · refine current.of_images rfl rfl rfl fun _ => ?_
      have refreshed : frame.cpuFramebufferRefreshed = true := by
        simpa using unread
      rw [phase]
      exact refreshed
  · exact current

theorem diffFrame_framesCurrent (current : s.FramesCurrent) :
    s.diffFrame.FramesCurrent := by
  unfold diffFrame
  split
  · next frame force phase =>
    exact current.of_images rfl rfl rfl fun _ => by rw [phase]; rfl
  · exact current

theorem applyDisplaySize_framesCurrent (current : s.FramesCurrent)
    (geometry : Geometry) :
    (s.applyDisplaySize geometry).FramesCurrent := by
  unfold applyDisplaySize
  split_ifs with busy
  · exact current
  · intro read
    simp only [Bool.or_eq_true, Bool.not_eq_true', not_or,
      Bool.not_eq_false] at busy
    have unread := WorkerPhase.readsFramebuffer_of_isIdle busy.1
    exact absurd (read.symm.trans unread) (by simp)

theorem step_framesCurrent {event : ServerEvent} (current : s.FramesCurrent)
    (damages : s.DamagesStale event) :
    (s.step event).FramesCurrent := by
  cases network : event.isNetwork with
  | true =>
      have same := step_sameFrames network s
      refine current.of_images same.geometry (by rw [same.capture])
        (by rw [same.capture]) fun read => ?_
      exact same.worker ▸ read
  | false =>
      cases pass : event.isPass with
      | true =>
          have same := step_sameCapture pass s
          refine current.of_images same.geometry (by rw [same.capture])
            (by rw [same.capture]) fun read => ?_
          rcases step_proceeds pass s with kept | idle | sending
          · exact kept ▸ read
          · have unread := WorkerPhase.readsFramebuffer_of_isIdle idle
            exact absurd (read.symm.trans unread) (by simp)
          · have unread := WorkerPhase.readsFramebuffer_of_isSending sending
            exact absurd (read.symm.trans unread) (by simp)
      | false =>
          cases event with
          | render outcome => exact render_framesCurrent current damages
          | applyPendingCompositorRequests =>
              change s.applyPendingCompositorRequests.FramesCurrent
              unfold applyPendingCompositorRequests
              split_ifs
              · exact current
              · exact current.of_images rfl rfl rfl id
          | requestService =>
              change s.requestService.FramesCurrent
              unfold requestService
              split_ifs
              · exact current.of_images rfl rfl rfl fun read => by cases read
              · exact current
          | readForce =>
              change s.readForce.FramesCurrent
              unfold readForce
              split
              · next frame phase =>
                exact current.of_images rfl rfl rfl fun read => phase ▸ read
              · exact current
          | checkShadow => exact checkShadow_framesCurrent current
          | diffFrame => exact diffFrame_framesCurrent current
          | failVideoTransport =>
              change s.failVideoTransport.FramesCurrent
              unfold failVideoTransport
              split_ifs
              · exact current
              · exact current.of_images rfl rfl rfl id
          | applyDisplaySize geometry =>
              exact applyDisplaySize_framesCurrent current geometry
          | _ => simp [ServerEvent.isNetwork, ServerEvent.isPass] at network pass

/-! ## Refreshes -/

def startsRefresh (s : ServerState) : Bool :=
  match s.worker with
  | .analyzed analysis =>
      s.net.clientConnected && !s.net.configUpdatePending &&
        !(analysis.changedTiles.isNone && !s.net.videoOwnsDisplay) &&
        s.net.refreshNeeded && analysis.fullRefresh
  | _ => false

theorem openPass_of_startsRefresh {analysis : FrameAnalysis}
    (phase : s.worker = .analyzed analysis) (starts : s.startsRefresh = true)
    (input : PassInput) :
    s.openPass (some analysis) input =
      s.startRefresh.serve (some analysis) input true := by
  simp only [startsRefresh, phase, Bool.and_eq_true, Bool.not_eq_true'] at starts
  obtain ⟨⟨⟨⟨connected, settled⟩, tiles⟩, needed⟩, full⟩ := starts
  simp [openPass, FrameAnalysis.lacksTiles, FrameAnalysis.isFull, connected,
    settled, tiles, needed, full]

theorem openPass_of_not_refresh {analysis : Option FrameAnalysis}
    (stays : s.net.clientConnected = true → s.net.configUpdatePending = false →
      (FrameAnalysis.lacksTiles analysis && !s.net.videoOwnsDisplay) = false →
      s.net.refreshNeeded = true → FrameAnalysis.isFull analysis = false)
    (input : PassInput) :
    s.openPass analysis input = s.withWorker .idle ∨
      s.openPass analysis input = s.requestFullRefresh.withWorker .idle ∨
      s.openPass analysis input = s.serve analysis input false := by
  unfold openPass
  split_ifs with closed lacks needed full
  · exact .inl rfl
  · exact .inr (.inl rfl)
  · simp only [Bool.or_eq_true, Bool.not_eq_true', not_or,
      Bool.not_eq_false, Bool.not_eq_true] at closed
    have partly := stays closed.1 closed.2 (Bool.not_eq_true _ ▸ lacks) needed
    exact absurd full (by simp [partly])
  · exact .inr (.inl rfl)
  · exact .inr (.inr rfl)

/-- A pass starts a refresh where `startsRefresh` says so, and only there. -/
theorem beginPass_refresh (s : ServerState) (input : PassInput) :
    if s.startsRefresh then ∃ analysis, s.worker = .analyzed analysis ∧
      s.beginPass input = s.startRefresh.serve (some analysis) input true
    else s.beginPass input = s ∨ s.beginPass input = s.withWorker .idle ∨
      s.beginPass input = s.requestFullRefresh.withWorker .idle ∨
      ∃ analysis, s.beginPass input = s.serve analysis input false := by
  cases phase : s.worker with
  | serviceRequested =>
      simp only [beginPass, startsRefresh, phase]
      exact .inr ((openPass_of_not_refresh (fun _ _ _ _ => rfl) input).imp_right
        (Or.imp_right fun served => ⟨none, served⟩))
  | analyzed analysis =>
      simp only [beginPass, phase]
      split_ifs with starts
      · exact ⟨analysis, rfl, openPass_of_startsRefresh phase starts input⟩
      · refine .inr ((openPass_of_not_refresh ?_ input).imp_right
          (Or.imp_right fun served => ⟨some analysis, served⟩))
        intro connected settled tiles needed
        rw [FrameAnalysis.lacksTiles] at tiles
        simpa only [startsRefresh, phase, connected, settled, tiles, needed,
          Bool.not_false, Bool.true_and, Bool.not_eq_true,
          FrameAnalysis.isFull] using starts
  | _ => simp [beginPass, startsRefresh, phase]

/-- A refresh that is about to start reads a framebuffer that is current. -/
def RefreshesCurrent (s : ServerState) : Prop :=
  s.startsRefresh = true → s.capture.Current s.geometry

instance (s : ServerState) : Decidable s.RefreshesCurrent := by
  unfold RefreshesCurrent
  infer_instance

theorem FramesCurrent.refreshesCurrent (current : s.FramesCurrent) :
    s.RefreshesCurrent := by
  intro starts
  refine current ?_
  unfold startsRefresh at starts
  split at starts
  · next analysis phase =>
    rw [Bool.and_eq_true] at starts
    rw [phase]
    exact Bool.or_eq_true_iff.mpr (Or.inr starts.2)
  · cases starts

theorem initial_framesCurrent (geometry : Geometry) (videoWorker : Bool) :
    (initial geometry videoWorker).FramesCurrent :=
  fun read => by cases read

end ServerState

/-- Video owns the display, and a frame has gone to its encoder only. -/
def exportedFrame : List ServerEvent :=
  Script.toReady ++ [Script.frame (Script.oneTile 0) 2 false] ++
    Script.analyze ++ Script.sendAll ++ Script.enterVideo ++
    [Script.frame (Script.oneTile 1) 3 true, .readForce, .checkShadow,
      Script.beginPass]

def refreshAfterExport (damage : SceneDamage) : List ServerEvent :=
  exportedFrame ++
    [.receiveVideoFeedback 2 1 ⟨false, false, true, false⟩,
      Script.tick 1 Script.quietHealth, Script.frame damage 4 false] ++
    Script.analyze

/--
In every run in which the frames that are read back damage the tiles that video
has left behind, a full refresh starts from the current scene.
-/
theorem refreshesCurrent_of_damagesStale {geometry : Geometry}
    {videoWorker : Bool} {events : List ServerEvent}
    (damages : Along ServerState.step ServerState.DamagesStale
      (.initial geometry videoWorker) events) :
    (serverRun geometry videoWorker events).RefreshesCurrent :=
  (invariant_runFrom (fun _ _ => ServerState.step_framesCurrent)
    (ServerState.initial_framesCurrent geometry videoWorker)
    damages).refreshesCurrent

theorem refreshAfterExport_all_refreshesCurrent :
    (serverRun Script.display true (refreshAfterExport .all)).RefreshesCurrent ∧
      (serverRun Script.display true
        (refreshAfterExport .all)).startsRefresh = true :=
  ⟨refreshesCurrent_of_damagesStale (by decide +kernel), by decide +kernel⟩

theorem refreshAfterExport_oneTile_reads_stale_pixels :
    ¬ (serverRun Script.display true
      (refreshAfterExport (Script.oneTile 0))).RefreshesCurrent := by
  decide +kernel

end WayDisplay.Server
