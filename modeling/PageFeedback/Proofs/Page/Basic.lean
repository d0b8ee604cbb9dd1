import PageFeedback.Proofs.Coordinator

set_option autoImplicit false

namespace PageFeedback

-- No toast is pushed here: on a page, toasts come of events alone.
inductive ScreenAction
  | dismiss (id : ToastId)
  | dismissAll
  | focus (id : ToastId)
  | blur (id : ToastId)
  | advance (elapsed : Duration)
deriving DecidableEq

def ScreenAction.toQueue : ScreenAction → QueueAction
  | dismiss id => .dismiss id
  | dismissAll => .dismissAll
  | focus id => .focus id
  | blur id => .blur id
  | advance elapsed => .advance elapsed

inductive PageAction
  | event (event : LifecycleEvent) (detail : EventDetail)
  | bar (action : BarAction)
  | screen (action : ScreenAction)
deriving DecidableEq

inductive PageOutcome
  | handled (reaction : Reaction) (shouldSwap : Bool)
  | moved
  | screen (outcome : QueueOutcome)
deriving DecidableEq

def PageOutcome.reaction? : PageOutcome → Option Reaction
  | handled reaction _ => some reaction
  | _ => none

def reactionsOf (outcomes : List PageOutcome) : List Reaction := outcomes.filterMap (·.reaction?)

namespace Coordinator

section

variable {P T : Type} [ProgressIndicator P] [ToastSink T]

def handleAll (coordinator : Coordinator P T) :
    List (LifecycleEvent × EventDetail) → Coordinator P T × List Reaction
  | [] => (coordinator, [])
  | (event, detail) :: events =>
      let (next, _, reaction) := coordinator.handle event detail
      let (last, reactions) := next.handleAll events
      (last, reaction :: reactions)

end

def act (page : Coordinator ProgressBar ToastQueue) :
    PageAction → Coordinator ProgressBar ToastQueue × PageOutcome
  | .event event detail =>
      let (next, after, reaction) := page.handle event detail
      (next, .handled reaction after.shouldSwap)
  | .bar action => ({ page with progress := page.progress.act action }, .moved)
  | .screen action =>
      let (toasts, outcome) := page.toasts.act action.toQueue
      ({ page with toasts }, .screen outcome)

def run (page : Coordinator ProgressBar ToastQueue) :
    List PageAction → Coordinator ProgressBar ToastQueue × List PageOutcome
  | [] => (page, [])
  | action :: actions =>
      let (next, outcome) := page.act action
      let (last, outcomes) := next.run actions
      (last, outcome :: outcomes)

theorem run_append (page : Coordinator ProgressBar ToastQueue) (first second : List PageAction) :
    page.run (first ++ second) =
      (((page.run first).1.run second).1, (page.run first).2 ++ ((page.run first).1.run second).2) := by
  induction first generalizing page with
  | nil => rfl
  | cons action first ih => simp only [List.cons_append, run, ih]

theorem run_snoc (page : Coordinator ProgressBar ToastQueue) (actions : List PageAction) (action : PageAction) :
    page.run (actions ++ [action]) =
      (((page.run actions).1.act action).1, (page.run actions).2 ++ [((page.run actions).1.act action).2]) :=
  run_append page actions [action]

theorem act_settings (page : Coordinator ProgressBar ToastQueue) (action : PageAction) :
    (page.act action).1.settings = page.settings := by
  cases action with
  | event event detail => exact page.handle_settings event detail
  | bar action => rfl
  | screen action => rfl

theorem run_settings (page : Coordinator ProgressBar ToastQueue) (actions : List PageAction) :
    (page.run actions).1.settings = page.settings := by
  induction actions generalizing page with
  | nil => rfl
  | cons action actions ih => exact (ih (page.act action).1).trans (page.act_settings action)

end Coordinator

end PageFeedback
