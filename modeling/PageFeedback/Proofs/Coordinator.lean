import PageFeedback.Coordinator

set_option autoImplicit false

namespace PageFeedback

def presentAll {T : Type} [ToastSink T] (sink : T) (toasts : List Toast) : T :=
  toasts.foldl (fun sink toast => ToastSink.present toast sink) sink

theorem present_all_list (shown toasts : List Toast) : presentAll shown toasts = shown ++ toasts := by
  induction toasts generalizing shown with
  | nil => exact (List.append_nil shown).symm
  | cons toast toasts ih =>
      change presentAll (shown ++ [toast]) toasts = shown ++ toast :: toasts
      rw [ih, List.append_assoc, List.singleton_append]

theorem present_all_queue (queue : ToastQueue) (toasts : List Toast) :
    (presentAll queue toasts).toasts = queue.toasts ++ toasts := by
  induction toasts generalizing queue with
  | nil => exact (List.append_nil queue.toasts).symm
  | cons toast toasts ih =>
      have pushed : (queue.push toast).1.toasts = queue.toasts ++ [toast] := by
        simp only [ToastQueue.push, ToastQueue.toasts, List.map_append, List.map_cons, List.map_nil]
      change (presentAll (queue.push toast).1 toasts).toasts = queue.toasts ++ toast :: toasts
      rw [ih, pushed, List.append_assoc, List.singleton_append]

def Reaction.toast? (reaction : Reaction) (looks : ToastSettings) : Option Toast :=
  reaction.toastText.map fun text => Toast.warning text looks

namespace Coordinator

section

variable {P T : Type} [ProgressIndicator P] [ToastSink T]

-- All that the handling of an event can come to, each with what leads to it.
inductive Handles (coordinator : Coordinator P T) (detail : EventDetail) :
    LifecycleEvent → Coordinator P T × EventDetail × Reaction → Prop
  | started (idle : ProgressIndicator.isStarted coordinator.progress = false) :
      Handles coordinator detail .beforeSend
        ({ coordinator with progress := ProgressIndicator.start coordinator.progress }, detail, .progressStarted)
  | alreadyRunning (running : ProgressIndicator.isStarted coordinator.progress = true) :
      Handles coordinator detail .beforeSend (coordinator, detail, .progressAlreadyRunning)
  | kept (follows : detail.transaction.hasHeader coordinator.settings.swap.redirectHeader = true) :
      Handles coordinator detail .afterRequest (coordinator, detail, .progressKeptForRedirect)
  | finished (last : detail.transaction.hasHeader coordinator.settings.swap.redirectHeader = false)
      (running : ProgressIndicator.isStarted coordinator.progress = true) :
      Handles coordinator detail .afterRequest
        ({ coordinator with progress := ProgressIndicator.done coordinator.progress }, detail, .progressFinished)
  | idle (last : detail.transaction.hasHeader coordinator.settings.swap.redirectHeader = false)
      (idle : ProgressIndicator.isStarted coordinator.progress = false) :
      Handles coordinator detail .afterRequest (coordinator, detail, .progressIdle)
  | failed :
      Handles coordinator detail .sendError
        (coordinator.warn coordinator.settings.toast.networkErrorText, detail,
          .networkErrorShown coordinator.settings.toast.networkErrorText)
  | allowed (allowed : coordinator.settings.swap.policy.suppresses detail.transaction.status = false) :
      Handles coordinator detail .beforeSwap (coordinator, detail, .swapAllowed)
  | suppressed (suppressed : coordinator.settings.swap.policy.suppresses detail.transaction.status = true) :
      Handles coordinator detail .beforeSwap
        ({ coordinator with
            toasts := presentAll coordinator.toasts ((Reaction.swapSuppressed
              (suppressionOf detail.transaction.responseText)).toast? coordinator.settings.toast).toList },
          { detail with shouldSwap := false }, .swapSuppressed (suppressionOf detail.transaction.responseText))

theorem handle_cases (coordinator : Coordinator P T) (event : LifecycleEvent) (detail : EventDetail) :
    coordinator.Handles detail event (coordinator.handle event detail) := by
  cases event with
  | beforeSend =>
      cases running : ProgressIndicator.isStarted coordinator.progress with
      | false =>
          simp only [handle, beforeSend, running]
          exact .started running
      | true =>
          simp only [handle, beforeSend, running]
          exact .alreadyRunning running
  | afterRequest =>
      cases follows : detail.transaction.hasHeader coordinator.settings.swap.redirectHeader with
      | true =>
          simp only [handle, afterRequest, follows]
          exact .kept follows
      | false =>
          cases running : ProgressIndicator.isStarted coordinator.progress with
          | true =>
              simp only [handle, afterRequest, follows, running]
              exact .finished follows running
          | false =>
              simp only [handle, afterRequest, follows, running]
              exact .idle follows running
  | sendError => exact .failed
  | beforeSwap =>
      cases refused : coordinator.settings.swap.policy.suppresses detail.transaction.status with
      | false =>
          simp only [handle, beforeSwap, refused]
          exact .allowed refused
      | true =>
          have suppressed := Handles.suppressed refused
          simp only [handle, beforeSwap, refused, if_true]
          generalize suppressionOf detail.transaction.responseText = suppression at suppressed ⊢
          cases suppression <;> exact suppressed

-- The reaction says all that the sink is shown, so a sink of any
-- kind can be followed from the reactions, and the settings stay.
theorem handle_frame (coordinator : Coordinator P T) (event : LifecycleEvent) (detail : EventDetail) :
    (coordinator.handle event detail).1 =
      { coordinator with
        progress := (coordinator.handle event detail).1.progress
        toasts := presentAll coordinator.toasts
          ((coordinator.handle event detail).2.2.toast? coordinator.settings.toast).toList } := by
  have handles := coordinator.handle_cases event detail
  generalize coordinator.handle event detail = result at handles
  cases handles <;> rfl

theorem handle_settings (coordinator : Coordinator P T) (event : LifecycleEvent) (detail : EventDetail) :
    (coordinator.handle event detail).1.settings = coordinator.settings := by
  rw [handle_frame]

theorem handle_toasts (coordinator : Coordinator P T) (event : LifecycleEvent) (detail : EventDetail) :
    (coordinator.handle event detail).1.toasts =
      presentAll coordinator.toasts
        ((coordinator.handle event detail).2.2.toast? coordinator.settings.toast).toList := by
  rw [handle_frame]

theorem before_swap_allowed (coordinator : Coordinator P T) (detail : EventDetail)
    (allowed : coordinator.settings.swap.policy.suppresses detail.transaction.status = false) :
    coordinator.handle .beforeSwap detail = (coordinator, detail, .swapAllowed) := by
  have handles := coordinator.handle_cases .beforeSwap detail
  generalize coordinator.handle .beforeSwap detail = result at handles
  cases handles with
  | allowed => rfl
  | suppressed suppressed => cases allowed.symm.trans suppressed

theorem before_swap_suppressed (coordinator : Coordinator P T) (detail : EventDetail)
    (suppressed : coordinator.settings.swap.policy.suppresses detail.transaction.status = true) :
    let reaction : Reaction := .swapSuppressed (suppressionOf detail.transaction.responseText)
    coordinator.handle .beforeSwap detail =
      ({ coordinator with
          toasts := presentAll coordinator.toasts (reaction.toast? coordinator.settings.toast).toList },
        { detail with shouldSwap := false }, reaction) := by
  have handles := coordinator.handle_cases .beforeSwap detail
  generalize coordinator.handle .beforeSwap detail = result at handles
  cases handles with
  | allowed allowed => cases allowed.symm.trans suppressed
  | suppressed => rfl

theorem before_swap_same (coordinator : Coordinator P T) (left right : EventDetail)
    (status : left.transaction.status = right.transaction.status)
    (told : suppressionOf left.transaction.responseText = suppressionOf right.transaction.responseText) :
    (coordinator.handle .beforeSwap left).1 = (coordinator.handle .beforeSwap right).1 ∧
      (coordinator.handle .beforeSwap left).2.2 = (coordinator.handle .beforeSwap right).2.2 := by
  simp only [handle, beforeSwap, status, told]
  split <;> exact ⟨rfl, rfl⟩

end

end Coordinator

end PageFeedback
