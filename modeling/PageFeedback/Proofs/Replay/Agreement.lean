import PageFeedback.Proofs.Coordinator
import PageFeedback.Proofs.Progress
import PageFeedback.Replay.Basic

set_option autoImplicit false

namespace PageFeedback

namespace Coordinator

section

variable {P T Q U : Type} [ProgressIndicator P] [ToastSink T] [ProgressIndicator Q] [ToastSink U]

structure Agree (usable : P → Prop) (usableToo : Q → Prop) (a : Coordinator P T) (b : Coordinator Q U) : Prop where
  settings : a.settings = b.settings
  running : ProgressIndicator.isStarted a.progress = ProgressIndicator.isStarted b.progress
  left : usable a.progress
  right : usableToo b.progress

variable {usable : P → Prop} {usableToo : Q → Prop} {a : Coordinator P T} {b : Coordinator Q U}

theorem handle_agree (obeys : ProgressIndicator.Obeys usable) (obeysToo : ProgressIndicator.Obeys usableToo)
    (agree : Agree usable usableToo a b) (event : LifecycleEvent) (detail : EventDetail) :
    (a.handle event detail).2 = (b.handle event detail).2 ∧
      Agree usable usableToo (a.handle event detail).1 (b.handle event detail).1 := by
  obtain ⟨settings, running, left, right⟩ := agree
  cases event with
  | beforeSend =>
      simp only [handle, beforeSend, running]
      split
      · exact ⟨rfl, settings, running, left, right⟩
      · -- Both were idle and both run now, whatever else their starts do.
        obtain ⟨usableA, startedA⟩ := obeys.start a.progress left
        obtain ⟨usableB, startedB⟩ := obeysToo.start b.progress right
        exact ⟨rfl, settings, startedA.trans startedB.symm, usableA, usableB⟩
  | afterRequest =>
      simp only [handle, afterRequest, settings, running]
      split
      · exact ⟨rfl, settings, running, left, right⟩
      · split
        · obtain ⟨usableA, doneA⟩ := obeys.done a.progress left
          obtain ⟨usableB, doneB⟩ := obeysToo.done b.progress right
          exact ⟨rfl, rfl, doneA.trans doneB.symm, usableA, usableB⟩
        · exact ⟨rfl, settings, running, left, right⟩
  | sendError =>
      refine ⟨?_, settings, running, left, right⟩
      simp only [handle, sendError, settings]
  | beforeSwap =>
      simp only [handle, beforeSwap, settings]
      split
      · split <;> exact ⟨rfl, settings, running, left, right⟩
      · exact ⟨rfl, settings, running, left, right⟩

theorem replay_entry_agree (obeys : ProgressIndicator.Obeys usable) (obeysToo : ProgressIndicator.Obeys usableToo)
    (agree : Agree usable usableToo a b) (entry : TranscriptEntry) :
    (a.replayEntry entry).2 = (b.replayEntry entry).2 ∧
      Agree usable usableToo (a.replayEntry entry).1 (b.replayEntry entry).1 := by
  obtain ⟨same, after⟩ := handle_agree obeys obeysToo agree entry.event (EventDetail.ofTransaction entry.transaction)
  refine ⟨?_, after⟩
  simp only [replayEntry, same, after.running]

end

theorem pass_agree {P T : Type} [ProgressIndicator P] [ToastSink T] {usable : P → Prop} {plain : Coordinator P T}
    {live : Coordinator TerminalBar ToastQueue} (agree : Agree usable TerminalBar.IsUsable plain live)
    (pause : Duration) : Agree usable TerminalBar.IsUsable plain (live.pass pause).1 where
  settings := agree.settings
  running := agree.running.trans (live.progress.tick_is_started agree.right).symm
  left := agree.left
  right := live.progress.tick_usable agree.right

theorem replay_live_agree {P T : Type} [ProgressIndicator P] [ToastSink T] {usable : P → Prop}
    (obeys : ProgressIndicator.Obeys usable) (plain : Coordinator P T) (live : Coordinator TerminalBar ToastQueue)
    (agree : Agree usable TerminalBar.IsUsable plain live) (pause : Duration) (entries : List TranscriptEntry) :
    (live.replayLive pause entries).2.map (·.step) = (plain.replay entries).2 ∧
      Agree usable TerminalBar.IsUsable (plain.replay entries).1 (live.replayLive pause entries).1 := by
  induction entries generalizing plain live with
  | nil => exact ⟨rfl, agree⟩
  | cons entry entries ih =>
      obtain ⟨same, handled⟩ := replay_entry_agree obeys TerminalBar.terminal_obeys agree entry
      -- The pause after the entry is seen by the live side alone, and keeps the agreement.
      obtain ⟨steps, last⟩ := ih _ _ (pass_agree handled pause)
      refine ⟨?_, last⟩
      simp only [replayLive, replay, List.map_cons, same, steps]

end Coordinator

theorem fresh_agree (settings : FeedbackSettings) (accepted : settings.validate = .ok ()) :
    Coordinator.Agree ProgressBar.IsUsable TerminalBar.IsUsable (Coordinator.ofSettings settings)
      (Coordinator.ofTerminal settings) :=
  ⟨rfl, rfl, settings.progress_accepted accepted, settings.progress_accepted accepted⟩

end PageFeedback
