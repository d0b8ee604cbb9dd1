import PageFeedback.Proofs.Json.Printer
import PageFeedback.Proofs.Page.Indicator
import PageFeedback.Proofs.Toast.Custody

set_option autoImplicit false

namespace PageFeedback

def ToastSettings.toastsOf (looks : ToastSettings) (reactions : List Reaction) : List Toast :=
  (reactions.filterMap (·.toastText)).map fun text => Toast.warning text looks

theorem toasts_of_append (looks : ToastSettings) (first second : List Reaction) :
    looks.toastsOf (first ++ second) = looks.toastsOf first ++ looks.toastsOf second := by
  simp [ToastSettings.toastsOf]

theorem toasts_of_singleton (looks : ToastSettings) (reaction : Reaction) :
    looks.toastsOf [reaction] = (reaction.toast? looks).toList := by
  unfold ToastSettings.toastsOf Reaction.toast?
  cases spoken : reaction.toastText <;> simp [spoken]

theorem present_all_append {T : Type} [ToastSink T] (sink : T) (first second : List Toast) :
    presentAll sink (first ++ second) = presentAll (presentAll sink first) second := List.foldl_append

theorem Coordinator.handle_all_toasts {P T : Type} [ProgressIndicator P] [ToastSink T] (coordinator : Coordinator P T)
    (events : List (LifecycleEvent × EventDetail)) :
    (coordinator.handleAll events).1.toasts =
      presentAll coordinator.toasts (coordinator.settings.toast.toastsOf (coordinator.handleAll events).2) := by
  induction events generalizing coordinator with
  | nil => rfl
  | cons event events ih =>
      -- Settings stay, so the later toasts have the same looks.
      have later := ih (coordinator.handle event.1 event.2).1
      rw [coordinator.handle_settings, coordinator.handle_toasts] at later
      rw [← toasts_of_singleton, ← present_all_append, ← toasts_of_append] at later
      exact later

theorem present_all_active (queue : ToastQueue) (toasts : List Toast) :
    (presentAll queue toasts).active =
      queue.active ++ (toasts.zipIdx (queue.lastId + 1)).map fun entry => ActiveToast.fresh ⟨entry.2⟩ entry.1 := by
  induction toasts generalizing queue with
  | nil => exact (List.append_nil _).symm
  | cons toast toasts ih =>
      have pushed : (queue.push toast).1.active = queue.active ++ [ActiveToast.fresh ⟨queue.lastId + 1⟩ toast] := rfl
      change (presentAll (queue.push toast).1 toasts).active = _
      rw [ih, pushed, List.append_assoc]
      rfl

namespace ToastQueue

variable {queue : ToastQueue} {shown : List Toast}

theorem Holds.present_all (holds : queue.Holds shown) (toasts : List Toast) :
    (presentAll queue toasts).Holds (shown ++ toasts) := by
  induction toasts generalizing queue shown with
  | nil => rwa [List.append_nil]
  | cons toast toasts ih =>
      have later := ih (holds.act (.push toast))
      rwa [List.append_assoc] at later

theorem Holds.screen (holds : queue.Holds shown) (action : ScreenAction) :
    (queue.act action.toQueue).1.Holds shown := by
  have next := holds.act action.toQueue
  have none : action.toQueue.pushed? = Option.none := by cases action <;> rfl
  rwa [none, Option.toList_none, List.append_nil] at next

end ToastQueue

namespace Coordinator

theorem act_holds (page : Coordinator ProgressBar ToastQueue) (action : PageAction) (shown : List Toast)
    (holds : page.toasts.Holds shown) :
    (page.act action).1.toasts.Holds (shown ++ page.settings.toast.toastsOf (reactionsOf [(page.act action).2])) := by
  cases action with
  | event event detail =>
      have toasts : (page.act (.event event detail)).1.toasts = presentAll page.toasts
          (page.settings.toast.toastsOf [(page.handle event detail).2.2]) := by
        rw [toasts_of_singleton]
        exact page.handle_toasts event detail
      rw [toasts]
      exact holds.present_all _
  | bar action =>
      change page.toasts.Holds (shown ++ [])
      rwa [List.append_nil]
  | screen action =>
      change (page.toasts.act action.toQueue).1.Holds (shown ++ [])
      rw [List.append_nil]
      exact holds.screen action

theorem run_holds (page : Coordinator ProgressBar ToastQueue) (actions : List PageAction) (shown : List Toast)
    (holds : page.toasts.Holds shown) :
    (page.run actions).1.toasts.Holds (shown ++ page.settings.toast.toastsOf (reactionsOf (page.run actions).2)) := by
  induction actions generalizing page shown with
  | nil =>
      change page.toasts.Holds (shown ++ [])
      rwa [List.append_nil]
  | cons action actions ih =>
      have later := ih (page.act action).1 _ (page.act_holds action shown holds)
      have outcomes : reactionsOf (page.run (action :: actions)).2 =
          reactionsOf [(page.act action).2] ++ reactionsOf ((page.act action).1.run actions).2 :=
        List.filterMap_append (l := [(page.act action).2])
      rw [page.act_settings, List.append_assoc, ← toasts_of_append, ← outcomes] at later
      exact later

end Coordinator

theorem error_message_ne_empty (value : Json) (text : String) (shown : errorMessage value = some text) : text ≠ "" := by
  unfold errorMessage at shown
  split at shown
  · cases shown
  · cases shown
  · split at shown
    · cases shown
    next present =>
      cases shown
      exact present
  · split at shown
    · cases shown
    · cases shown
      exact Json.compact_text_ne_empty _
  · cases shown
    exact Json.compact_text_ne_empty _

theorem suppression_message_ne_empty (body text : String) (shown : Coordinator.suppressionOf body = .message text) :
    text ≠ "" := by
  unfold Coordinator.suppressionOf at shown
  split at shown
  · cases shown
  · split at shown
    next value _ _ found =>
      cases shown
      obtain ⟨error, -, message⟩ := Option.bind_eq_some_iff.mp found
      exact error_message_ne_empty error text message
    · cases shown

theorem FeedbackSettings.message_present (settings : FeedbackSettings) (accepted : settings.validate = .ok ()) :
    settings.toast.networkErrorText ≠ "" := by
  intro empty
  have present := (settings.validate_iff.mp accepted).2.2
  rw [empty] at present
  cases present

def Reaction.IsLegible (reaction : Reaction) : Prop := ∀ text, reaction.toastText = some text → text ≠ ""

namespace Coordinator

section

variable {P T : Type} [ProgressIndicator P] [ToastSink T]

theorem handle_legible (coordinator : Coordinator P T) (event : LifecycleEvent) (detail : EventDetail)
    (present : coordinator.settings.toast.networkErrorText ≠ "") :
    (coordinator.handle event detail).2.2.IsLegible := by
  intro text spoken
  have handles := coordinator.handle_cases event detail
  generalize coordinator.handle event detail = result at handles spoken
  cases handles with
  | started | alreadyRunning | kept | finished | idle | allowed => cases spoken
  | failed =>
      cases spoken
      exact present
  | suppressed =>
      cases suppression : suppressionOf detail.transaction.responseText with
      | message shown =>
          rw [suppression] at spoken
          cases spoken
          exact suppression_message_ne_empty _ _ suppression
      | silent =>
          rw [suppression] at spoken
          cases spoken
      | malformedBody reason =>
          rw [suppression] at spoken
          cases spoken

theorem handle_all_legible (coordinator : Coordinator P T) (events : List (LifecycleEvent × EventDetail))
    (present : coordinator.settings.toast.networkErrorText ≠ "") :
    ∀ reaction ∈ (coordinator.handleAll events).2, reaction.IsLegible := by
  induction events generalizing coordinator with
  | nil => exact fun _ found => nomatch found
  | cons event events ih =>
      intro reaction found
      cases List.mem_cons.mp found with
      | inl first => exact first ▸ coordinator.handle_legible event.1 event.2 present
      | inr later =>
          refine ih (coordinator.handle event.1 event.2).1 ?_ reaction later
          rwa [coordinator.handle_settings]

end

theorem run_legible (page : Coordinator ProgressBar ToastQueue) (actions : List PageAction)
    (present : page.settings.toast.networkErrorText ≠ "") :
    ∀ reaction ∈ reactionsOf (page.run actions).2, reaction.IsLegible := by
  induction actions generalizing page with
  | nil => exact fun _ found => nomatch found
  | cons action actions ih =>
      intro reaction found
      obtain ⟨outcome, inRun, reacted⟩ := List.mem_filterMap.mp found
      cases List.mem_cons.mp inRun with
      | inl first =>
          subst first
          cases action with
          | event event detail =>
              cases reacted
              exact page.handle_legible event detail present
          | bar action => cases reacted
          | screen action => cases reacted
      | inr later =>
          refine ih (page.act action).1 ?_ reaction (List.mem_filterMap.mpr ⟨outcome, later, reacted⟩)
          rwa [page.act_settings]

end Coordinator

theorem toasts_of_legible (looks : ToastSettings) (reactions : List Reaction)
    (legible : ∀ reaction ∈ reactions, reaction.IsLegible) : ∀ toast ∈ looks.toastsOf reactions, toast.text ≠ "" := by
  intro toast found
  obtain ⟨text, spoken, rfl⟩ := List.mem_map.mp found
  obtain ⟨reaction, present, said⟩ := List.mem_filterMap.mp spoken
  exact legible reaction present text said

theorem reactions_account_for_toasts {P T : Type} [ProgressIndicator P] [ToastSink T] (settings : FeedbackSettings)
    (progress : P) (sink : T) (events : List (LifecycleEvent × EventDetail)) (actions : List PageAction) :
    let looks := settings.toast
    let shown := (⟨settings, progress, sink⟩ : Coordinator P T).handleAll events
    let listed := (⟨settings, progress, []⟩ : Coordinator P (List Toast)).handleAll events
    let queued := (⟨settings, progress, .empty⟩ : Coordinator P ToastQueue).handleAll events
    let page := (Coordinator.ofSettings settings).run actions
    shown.1.toasts = presentAll sink (looks.toastsOf shown.2) ∧
    listed.1.toasts = looks.toastsOf listed.2 ∧
    queued.1.toasts.active =
      ((looks.toastsOf queued.2).zipIdx 1).map (fun entry => ActiveToast.fresh ⟨entry.2⟩ entry.1) ∧
    (page.1.toasts.active.map fun active => (active.toast, active.id.number)).Sublist
      ((looks.toastsOf (reactionsOf page.2)).zipIdx 1) ∧
    (∀ (coordinator : Coordinator P T) (detail : EventDetail), coordinator.settings = settings →
      (coordinator.handle .beforeSend detail).1.toasts = coordinator.toasts ∧
      (coordinator.handle .afterRequest detail).1.toasts = coordinator.toasts ∧
      (coordinator.handle .sendError detail).1.toasts =
        ToastSink.present (Toast.warning looks.networkErrorText looks) coordinator.toasts ∧
      ((coordinator.handle .beforeSwap detail).1.toasts = coordinator.toasts ∨
        ∃ text, (coordinator.handle .beforeSwap detail).1.toasts =
          ToastSink.present (Toast.warning text looks) coordinator.toasts)) ∧
    (settings.validate = .ok () →
      ∀ toast ∈ looks.toastsOf shown.2 ++ looks.toastsOf (reactionsOf page.2), toast.text ≠ "") := by
  intro looks shown listed queued page
  have holds := (Coordinator.ofSettings settings).run_holds actions [] ToastQueue.empty_holds
  refine ⟨Coordinator.handle_all_toasts _ events, ?_, ?_, holds.some, ?_, ?_⟩
  · exact (Coordinator.handle_all_toasts _ events).trans (present_all_list _ _)
  · have toasts := Coordinator.handle_all_toasts ⟨settings, progress, ToastQueue.empty⟩ events
    exact (congrArg ToastQueue.active toasts).trans (present_all_active _ _)
  · rintro coordinator detail rfl
    have toasts (event : LifecycleEvent) := coordinator.handle_toasts event detail
    refine ⟨?_, ?_, rfl, ?_⟩
    · rw [toasts, (coordinator.handle_indicator .beforeSend detail).send.1]
      split <;> rfl
    · rw [toasts, (coordinator.handle_indicator .afterRequest detail).ended]
      split
      · rfl
      · split <;> rfl
    · rw [toasts, Reaction.toast?]
      cases (coordinator.handle .beforeSwap detail).2.2.toastText with
      | none => exact .inl rfl
      | some text => exact .inr ⟨text, rfl⟩
  · intro accepted toast found
    have present := settings.message_present accepted
    cases List.mem_append.mp found with
    | inl inEvents => exact toasts_of_legible looks _ (Coordinator.handle_all_legible _ events present) toast inEvents
    | inr inRun => exact toasts_of_legible looks _ (Coordinator.run_legible _ actions present) toast inRun

-- A network error and a failure that says why; the user dismisses the first of the two toasts.
theorem toasts_of_two_failures :
    let settings := FeedbackSettings.default
    let unreachable : EventDetail := ⟨.unsent, true⟩
    let missing : EventDetail := ⟨⟨404, "\x7b\"error\":\"Not found\"\x7d", .empty⟩, true⟩
    let events := [(.sendError, unreachable), (.beforeSwap, missing)]
    let listed := (⟨settings, ProgressBar.new settings.progress, []⟩ : Coordinator ProgressBar (List Toast)).handleAll events
    let page := (Coordinator.ofSettings settings).run
      (events.map (fun event => .event event.1 event.2) ++ [.screen (.dismiss ⟨1⟩)])
    listed.1.toasts.map Toast.text = ["A network error occurred", "Not found"] ∧
      page.1.toasts.active.map (fun active => (active.toast.text, active.id.number)) = [("Not found", 2)] ∧
      ∀ toast ∈ settings.toast.toastsOf (reactionsOf page.2), toast.text ≠ "" := by
  intro settings unreachable missing events listed page
  have accepted : settings.validate = .ok () := by decide +kernel
  obtain ⟨-, shown, -, -, -, legible⟩ := reactions_account_for_toasts settings (ProgressBar.new settings.progress)
    ([] : List Toast) events (events.map (fun event => .event event.1 event.2) ++ [.screen (.dismiss ⟨1⟩)])
  refine ⟨?_, by decide +kernel, fun toast found => ?_⟩
  · exact (congrArg (List.map Toast.text) shown).trans (by decide +kernel)
  · exact legible accepted toast (List.mem_append_right _ found)

end PageFeedback
