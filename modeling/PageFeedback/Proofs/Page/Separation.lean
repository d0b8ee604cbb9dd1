import PageFeedback.Proofs.Page.Basic

set_option autoImplicit false

namespace PageFeedback

namespace PageAction

def movesIndicator : PageAction → Bool
  | event .beforeSend _ => true
  | event .afterRequest _ => true
  | event .sendError _ => false
  | event .beforeSwap _ => false
  | bar _ => true
  | screen _ => false

def isScreen : PageAction → Bool
  | screen _ => true
  | _ => false

end PageAction

inductive Interleaved {α : Type} : List α → List α → List α → Prop
  | none : Interleaved [] [] []
  | first {item : α} {first second merged : List α} (rest : Interleaved first second merged) :
      Interleaved (item :: first) second (item :: merged)
  | second {item : α} {first second merged : List α} (rest : Interleaved first second merged) :
      Interleaved first (item :: second) (item :: merged)

namespace Interleaved

variable {α : Type} {first second merged : List α}

theorem filter_first (interleaved : Interleaved first second merged) (kept : α → Bool)
    (all : ∀ item ∈ first, kept item = true) (none : ∀ item ∈ second, kept item = false) :
    merged.filter kept = first := by
  induction interleaved with
  | none => rfl
  | first rest ih =>
      obtain ⟨own, later⟩ := List.forall_mem_cons.mp all
      rw [List.filter_cons_of_pos own, ih later none]
  | second rest ih =>
      obtain ⟨own, later⟩ := List.forall_mem_cons.mp none
      rw [List.filter_cons_of_neg (Bool.eq_false_iff.mp own), ih all later]

theorem symm (interleaved : Interleaved first second merged) : Interleaved second first merged := by
  induction interleaved with
  | none => exact .none
  | first rest ih => exact .second ih
  | second rest ih => exact .first ih

end Interleaved

namespace Coordinator

variable (page : Coordinator ProgressBar ToastQueue)

def answered (actions : List PageAction) : List (PageAction × PageOutcome) := actions.zip (page.run actions).2

theorem answered_cons (action : PageAction) (actions : List PageAction) :
    page.answered (action :: actions) = (action, (page.act action).2) :: (page.act action).1.answered actions := rfl

theorem act_ignores_toasts (toasts : ToastQueue) (action : PageAction) (noScreen : action.isScreen = false) :
    (({ page with toasts } : Coordinator ProgressBar ToastQueue).act action).1.progress = (page.act action).1.progress ∧
      (({ page with toasts } : Coordinator ProgressBar ToastQueue).act action).2 = (page.act action).2 := by
  cases action with
  | event event detail =>
      cases event with
      | beforeSend =>
          simp only [act, handle, beforeSend]
          split <;> exact ⟨rfl, rfl⟩
      | afterRequest =>
          simp only [act, handle, afterRequest]
          split
          · exact ⟨rfl, rfl⟩
          · split <;> exact ⟨rfl, rfl⟩
      | sendError => exact ⟨rfl, rfl⟩
      | beforeSwap =>
          simp only [act, handle, beforeSwap]
          split
          · split <;> exact ⟨rfl, rfl⟩
          · exact ⟨rfl, rfl⟩
  | bar action => exact ⟨rfl, rfl⟩
  | screen action => cases noScreen

theorem act_keeps_toasts (action : PageAction) (moves : action.movesIndicator = true) :
    (page.act action).1.toasts = page.toasts := by
  cases action with
  | event event detail =>
      have handles := page.handle_cases event detail
      unfold act
      dsimp only
      generalize page.handle event detail = result at handles
      cases handles with
      | started | alreadyRunning | kept | finished | idle => rfl
      | failed | allowed | suppressed => cases moves
  | bar action => rfl
  | screen action => cases moves

theorem act_ignores_progress (progress : ProgressBar) (action : PageAction) (apart : action.movesIndicator = false) :
    (({ page with progress } : Coordinator ProgressBar ToastQueue).act action).1.toasts = (page.act action).1.toasts ∧
      (({ page with progress } : Coordinator ProgressBar ToastQueue).act action).2 = (page.act action).2 := by
  cases action with
  | event event detail =>
      cases event with
      | beforeSend => cases apart
      | afterRequest => cases apart
      | sendError => exact ⟨rfl, rfl⟩
      | beforeSwap =>
          simp only [act, handle, beforeSwap]
          split
          · split <;> exact ⟨rfl, rfl⟩
          · exact ⟨rfl, rfl⟩
  | bar action => cases apart
  | screen action => exact ⟨rfl, rfl⟩

theorem act_keeps_progress (action : PageAction) (apart : action.movesIndicator = false) :
    (page.act action).1.progress = page.progress := by
  cases action with
  | event event detail =>
      have handles := page.handle_cases event detail
      unfold act
      dsimp only
      generalize page.handle event detail = result at handles
      cases handles with
      | started | alreadyRunning | kept | finished | idle => cases apart
      | failed | allowed | suppressed => rfl
  | bar action => cases apart
  | screen action => rfl

end Coordinator

-- What shows of a page in a view is up to the actions that are kept: the others leave the view as it is,
-- and these look at no more of the page than the view.
structure Separates {α : Type} (view : Coordinator ProgressBar ToastQueue → α) (kept : PageAction → Bool) : Prop where
  silent : ∀ page action, kept action = false → view (page.act action).1 = view page
  decided : ∀ page other action, kept action = true → view page = view other →
    view (page.act action).1 = view (other.act action).1 ∧ (page.act action).2 = (other.act action).2

theorem Separates.run {α : Type} {view : Coordinator ProgressBar ToastQueue → α} {kept : PageAction → Bool}
    (separates : Separates view kept) (page other : Coordinator ProgressBar ToastQueue) (same : view page = view other)
    (actions : List PageAction) :
    view (page.run actions).1 = view (other.run (actions.filter kept)).1 ∧
      (page.answered actions).filter (fun entry => kept entry.1) = other.answered (actions.filter kept) := by
  induction actions generalizing page other with
  | nil => exact ⟨same, rfl⟩
  | cons action actions ih =>
      cases stays : kept action with
      | true =>
          obtain ⟨views, outcomes⟩ := separates.decided page other action stays same
          obtain ⟨last, answers⟩ := ih (page.act action).1 (other.act action).1 views
          rw [List.filter_cons_of_pos stays]
          refine ⟨last, ?_⟩
          simp only [Coordinator.answered_cons, List.filter_cons, stays, if_true, answers, outcomes]
      | false =>
          obtain ⟨last, answers⟩ := ih (page.act action).1 other ((separates.silent page action stays).trans same)
          rw [List.filter_cons_of_neg (Bool.eq_false_iff.mp stays)]
          refine ⟨last, ?_⟩
          simp only [Coordinator.answered_cons, List.filter_cons, stays, Bool.false_eq_true, if_false, answers]

namespace Coordinator

def indicatorHalf (page : Coordinator ProgressBar ToastQueue) : FeedbackSettings × ProgressBar :=
  (page.settings, page.progress)

def toastHalf (page : Coordinator ProgressBar ToastQueue) : FeedbackSettings × ToastQueue :=
  (page.settings, page.toasts)

theorem decided_of_indicator_half (page other : Coordinator ProgressBar ToastQueue) (action : PageAction)
    (noScreen : action.isScreen = false) (same : page.indicatorHalf = other.indicatorHalf) :
    (page.act action).1.indicatorHalf = (other.act action).1.indicatorHalf ∧
      (page.act action).2 = (other.act action).2 := by
  obtain ⟨settings, progress, toasts⟩ := other
  obtain ⟨rfl, rfl⟩ := Prod.mk.inj same
  obtain ⟨moved, outcomes⟩ := page.act_ignores_toasts toasts action noScreen
  refine ⟨?_, outcomes.symm⟩
  rw [indicatorHalf, indicatorHalf, act_settings, act_settings, moved]

theorem screen_separates : Separates indicatorHalf fun action => !action.isScreen where
  silent page action left := by
    cases action with
    | screen action => rfl
    | event event detail => cases left
    | bar action => cases left
  decided page other action stays same :=
    decided_of_indicator_half page other action ((Bool.not_eq_true' _).mp stays) same

theorem indicator_separates : Separates indicatorHalf PageAction.movesIndicator where
  silent page action apart := by
    rw [indicatorHalf, act_settings, act_keeps_progress page action apart]
    rfl
  decided page other action moves same := by
    refine decided_of_indicator_half page other action ?_ same
    cases action with
    | screen action => cases moves
    | event event detail => rfl
    | bar action => rfl

theorem toasts_separate : Separates toastHalf fun action => !action.movesIndicator where
  silent page action left := by
    rw [toastHalf, act_settings, act_keeps_toasts page action ((Bool.not_eq_false' _).mp left)]
    rfl
  decided page other action stays same := by
    obtain ⟨settings, progress, toasts⟩ := other
    obtain ⟨rfl, rfl⟩ := Prod.mk.inj same
    obtain ⟨shown, outcomes⟩ := page.act_ignores_progress progress action ((Bool.not_eq_true' _).mp stays)
    refine ⟨?_, outcomes.symm⟩
    rw [toastHalf, toastHalf, act_settings, act_settings, shown]

end Coordinator

theorem indicator_and_toasts_apart (page : Coordinator ProgressBar ToastQueue) (actions : List PageAction) :
    let unscreened := actions.filter fun action => !action.isScreen
    let onToasts := actions.filter fun action => !action.movesIndicator
    let onIndicator := actions.filter fun action => action.movesIndicator
    ((page.run unscreened).1.progress = (page.run actions).1.progress ∧
      page.answered unscreened = (page.answered actions).filter fun entry => !entry.1.isScreen) ∧
    ((page.run onToasts).1.toasts = (page.run actions).1.toasts ∧
      page.answered onToasts = (page.answered actions).filter fun entry => !entry.1.movesIndicator) ∧
    ((page.run onIndicator).1.progress = (page.run actions).1.progress ∧
      page.answered onIndicator = (page.answered actions).filter fun entry => entry.1.movesIndicator) ∧
    ∀ indicatorActions toastActions merged : List PageAction,
      (∀ action ∈ indicatorActions, action.movesIndicator = true) →
      (∀ action ∈ toastActions, action.movesIndicator = false) →
      Interleaved indicatorActions toastActions merged →
      (page.run merged).1 =
        ⟨page.settings, (page.run indicatorActions).1.progress, (page.run toastActions).1.toasts⟩ ∧
      (page.answered merged).filter (fun entry => entry.1.movesIndicator) = page.answered indicatorActions ∧
      (page.answered merged).filter (fun entry => !entry.1.movesIndicator) = page.answered toastActions := by
  intro unscreened onToasts onIndicator
  obtain ⟨screens, screenAnswers⟩ := Coordinator.screen_separates.run page page rfl actions
  obtain ⟨toasts, toastAnswers⟩ := Coordinator.toasts_separate.run page page rfl actions
  obtain ⟨indicator, indicatorAnswers⟩ := Coordinator.indicator_separates.run page page rfl actions
  refine ⟨⟨(congrArg Prod.snd screens).symm, screenAnswers.symm⟩, ⟨(congrArg Prod.snd toasts).symm, toastAnswers.symm⟩,
    ⟨(congrArg Prod.snd indicator).symm, indicatorAnswers.symm⟩, ?_⟩
  intro indicatorActions toastActions merged moves apart interleaved
  -- Each stream is what is left of the merged one when the other is left out.
  have ofIndicator : merged.filter PageAction.movesIndicator = indicatorActions :=
    interleaved.filter_first _ moves apart
  have ofToasts : (merged.filter fun action => !action.movesIndicator) = toastActions := by
    refine interleaved.symm.filter_first _ (fun action found => ?_) (fun action found => ?_)
    · rw [apart action found]
      rfl
    · rw [moves action found]
      rfl
  obtain ⟨halves, indicatorAnswers⟩ := Coordinator.indicator_separates.run page page rfl merged
  obtain ⟨otherHalves, toastAnswers⟩ := Coordinator.toasts_separate.run page page rfl merged
  rw [ofIndicator] at halves indicatorAnswers
  rw [ofToasts] at otherHalves toastAnswers
  refine ⟨?_, indicatorAnswers, toastAnswers⟩
  have progress : (page.run merged).1.progress = (page.run indicatorActions).1.progress := congrArg Prod.snd halves
  have toasts : (page.run merged).1.toasts = (page.run toastActions).1.toasts := congrArg Prod.snd otherHalves
  calc (page.run merged).1
      = ⟨(page.run merged).1.settings, (page.run merged).1.progress, (page.run merged).1.toasts⟩ := rfl
    _ = ⟨page.settings, (page.run indicatorActions).1.progress, (page.run toastActions).1.toasts⟩ := by
        rw [page.run_settings, progress, toasts]

theorem request_apart_from_failure :
    let page := Coordinator.ofSettings .default
    let detail : EventDetail := ⟨.unsent, true⟩
    let request : List PageAction := [.event .beforeSend detail, .bar .trickle, .event .afterRequest detail]
    let failure : List PageAction := [.event .sendError detail, .screen (.focus ⟨1⟩), .screen (.dismiss ⟨1⟩)]
    let merged : List PageAction :=
      [.event .sendError detail, .event .beforeSend detail, .screen (.focus ⟨1⟩), .bar .trickle,
        .event .afterRequest detail, .screen (.dismiss ⟨1⟩)]
    (∀ action ∈ request, action.movesIndicator = true) ∧ (∀ action ∈ failure, action.movesIndicator = false) ∧
      Interleaved request failure merged ∧
      (page.run merged).1 = ⟨.default, (page.run request).1.progress, (page.run failure).1.toasts⟩ ∧
      (page.run merged).1.progress.completions = 1 ∧ (page.run merged).1.toasts = ⟨1, []⟩ := by
  intro page detail request failure merged
  have moves : ∀ action ∈ request, action.movesIndicator = true := by decide
  have apart : ∀ action ∈ failure, action.movesIndicator = false := by decide
  have interleaved : Interleaved request failure merged :=
    .second (.first (.second (.first (.first (.second .none)))))
  have last := ((indicator_and_toasts_apart page merged).2.2.2 request failure merged moves apart interleaved).1
  refine ⟨moves, apart, interleaved, last, ?_, ?_⟩
  · rw [last]
    decide +kernel
  · rw [last]
    decide +kernel

end PageFeedback
