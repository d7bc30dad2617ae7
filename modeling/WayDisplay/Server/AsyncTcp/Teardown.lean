import WayDisplay.Server.AsyncTcp.Callbacks

/-!
Teardown of a sender.

Destroying a sender shuts the socket down, reaps and fails what it can, closes
the ring, and fails the rest.  Shutdown and cancellation act on the kernel only;
whatever the kernel answers, every message left is called back.
-/

namespace WayDisplay.Server.AsyncTcp

open WayDisplay.Common WayDisplay.Foundation

def countFailure (s : Sender) : Sender :=
  { s with failed := s.failed + 1 }

/-- Fail the visited messages, except those that `spares` selects. -/
def failLoop (spares : Message → Bool) : List Message → Sender → Sender
  | [], s => s
  | msg :: rest, s =>
      if spares msg then failLoop spares rest s
      else failLoop spares rest (failMessage (countFailure s) msg)

def failUnsubmitted (s : Sender) : Sender :=
  failLoop (fun msg => msg.submitted) s.pending s

def hasSubmitted (s : Sender) : Bool :=
  s.pending.any fun msg => msg.submitted

/-- One entry per iteration: the completions that the kernel has ready. -/
def drainLoop (kernel : Kernel) : List Nat → Sender → Sender
  | [], s => s
  | available :: rest, s =>
      if s.pending.isEmpty then s
      else
        let s := failUnsubmitted (senderReap kernel available s)
        if !s.ringReady || !hasSubmitted s then s else drainLoop kernel rest s

def drainLimit : Nat := 250

def queueExit (s : Sender) : Sender :=
  { s with ringReady := false }

def failAllAfterRingExit (s : Sender) : Sender :=
  { failLoop (fun _ => false) s.pending s with inflight := 0 }

def senderDestroy (kernel : Kernel) (drains : List Nat) (s : Sender) : Sender :=
  failAllAfterRingExit
    (queueExit (drainLoop kernel (drains.take drainLimit) s))

/-- A replacement for a destroyed sender; the logs of the records go on. -/
def replaceSender (limit : Nat) (retired : Sender) : Sender :=
  { senderCreate limit with
    taken := retired.taken
    callbacks := retired.callbacks }

/-! ## Callbacks of a teardown -/

theorem failLoop_progresses (spares : Message → Bool) (msgs : List Message)
    (s : Sender) : Progresses s (failLoop spares msgs s) := by
  induction msgs generalizing s with
  | nil => exact .refl s
  | cons msg rest ih =>
      have failed : Progresses s (failMessage (countFailure s) msg) :=
        ⟨rfl, List.prefix_append _ _, id⟩
      simp only [failLoop]
      split
      · exact ih s
      · exact failed.trans (ih _)

theorem Sound.failUnsubmittedLoop {msgs : List Message} {s : Sender}
    (sound : Sound False s) (sublist : msgs.Sublist s.pending) :
    Advances False s (failLoop (fun msg => msg.submitted) msgs s) := by
  induction msgs generalizing s with
  | nil => exact sound.stays
  | cons msg rest ih =>
      simp only [failLoop]
      split
      · exact ih sound ((List.sublist_cons_self msg rest).trans sublist)
      · rename_i idle
        have counted : Advances False s (countFailure s) :=
          sound.moves ⟨rfl, rfl, rfl, rfl, rfl, rfl, rfl, id⟩ sound.available
        have failed := counted.trans (counted.sound.failMessage
          (sublist.subset List.mem_cons_self) (by simpa using idle) False.elim)
        exact failed.trans
          (ih failed.sound (sublist_failMessage counted.sound.serials sublist))

theorem Sound.drainLoop {s : Sender} (sound : Sound False s)
    (kernel : Kernel) (drains : List Nat) :
    Advances False s (drainLoop kernel drains s) := by
  induction drains generalizing s with
  | nil => exact sound.stays
  | cons available rest ih =>
      have reaped : Advances False s
          (AsyncTcp.senderReap kernel available s) :=
        sound.senderReap False.elim available
      have pass : Advances False s
          (failUnsubmitted (AsyncTcp.senderReap kernel available s)) :=
        reaped.trans (reaped.sound.failUnsubmittedLoop (List.Sublist.refl _))
      simp only [AsyncTcp.drainLoop]
      split
      · exact sound.stays
      split
      · exact pass
      · exact pass.trans (ih pass.sound)

theorem senderDestroy_progresses (kernel : Kernel) (drains : List Nat)
    {s : Sender} (sound : Sound False s) :
    Progresses s (senderDestroy kernel drains s) := by
  have drained := (sound.drainLoop kernel (drains.take drainLimit)).toProgresses
  have failed := failLoop_progresses (fun _ => false)
    (queueExit (drainLoop kernel (drains.take drainLimit) s)).pending
    (queueExit (drainLoop kernel (drains.take drainLimit) s))
  exact drained.trans ⟨failed.taken, failed.callbacks, failed.fallback⟩

theorem failLoop_all {msgs : List Message} {s : Sender}
    (hpending : s.pending = msgs) (serials : (msgs.map Message.serial).Nodup) :
    (failLoop (fun _ => false) msgs s).pending = [] ∧
      (failLoop (fun _ => false) msgs s).pendingBytes =
        s.pendingBytes - pendingSize msgs ∧
      calledRecords (failLoop (fun _ => false) msgs s).callbacks =
        calledRecords s.callbacks ++ pendingRecords msgs := by
  induction msgs generalizing s with
  | nil => simpa [failLoop, pendingRecords, pendingSize] using hpending
  | cons msg rest ih =>
      rw [List.map_cons, List.nodup_cons] at serials
      have remaining : (failMessage (countFailure s) msg).pending = rest := by
        change s.pending.filter _ = rest
        rw [hpending, List.filter_cons_of_neg (by simp)]
        refine List.filter_eq_self.mpr fun other inRest => ?_
        have differs : other.serial ≠ msg.serial := fun equal =>
          serials.1 (equal ▸ List.mem_map_of_mem inRest)
        simpa using differs
      obtain ⟨drained, bytes, called⟩ := ih remaining serials.2
      refine ⟨drained, bytes.trans ?_, called.trans ?_⟩
      · exact (Nat.sub_sub _ _ _).trans rfl
      simp [calledRecords, pendingRecords, failMessage, completeMessage,
        removeUnfinished, pendingRemove, countFailure, Function.comp_def]

theorem senderDestroy_called (kernel : Kernel) (drains : List Nat) {s : Sender}
    (sound : Sound False s) :
    (calledRecords (senderDestroy kernel drains s).callbacks).Perm s.taken := by
  have drained := sound.drainLoop kernel (drains.take drainLimit)
  have called := (failLoop_all (s := queueExit
    (drainLoop kernel (drains.take drainLimit) s)) rfl drained.sound.serials).2.2
  rw [← drained.taken]
  exact (List.Perm.of_eq called).trans
    (List.perm_append_comm.trans drained.sound.conserved)

theorem sound_replaceSender (limit : Nat) {retired : Sender}
    (called : (calledRecords retired.callbacks).Perm retired.taken) :
    Sound False (replaceSender limit retired) :=
  Consistent.sound
    ⟨False.elim, by simp [replaceSender, senderCreate],
      by simp [replaceSender, senderCreate], called, rfl,
      by simp [replaceSender, senderCreate], rfl⟩
    rfl (by simp [replaceSender, senderCreate])

end WayDisplay.Server.AsyncTcp
