import Mathlib.Data.List.Induction
import PageFeedback.Proofs.Page.Basic
import PageFeedback.Proofs.Progress
import PageFeedback.Settings.File

set_option autoImplicit false

namespace PageFeedback

-- Some request was sent, and every request that ended since then announced a redirect.
def IsAwaited (header : String) (actions : List PageAction) : Prop :=
  ∃ before detail later, actions = before ++ .event .beforeSend detail :: later ∧
    ∀ ended, .event .afterRequest ended ∈ later → ended.transaction.hasHeader header = true

theorem not_awaited_nil (header : String) : ¬ IsAwaited header [] := by
  rintro ⟨before, detail, later, split, -⟩
  simp at split

theorem awaited_send (header : String) (actions : List PageAction) (detail : EventDetail) :
    IsAwaited header (actions ++ [.event .beforeSend detail]) :=
  ⟨actions, detail, [], rfl, fun _ found => nomatch found⟩

theorem awaited_snoc (header : String) (actions : List PageAction) (action : PageAction)
    (quiet : ∀ detail, action ≠ .event .beforeSend detail) :
    IsAwaited header (actions ++ [action]) ↔
      IsAwaited header actions ∧
        ∀ ended, action = .event .afterRequest ended → ended.transaction.hasHeader header = true := by
  constructor
  · rintro ⟨before, detail, later, split, redirected⟩
    cases later using List.reverseRecOn with
    | nil =>
        -- The request that was sent is not the last action.
        have same := (List.append_inj' split rfl).2
        exact absurd (List.head_eq_of_cons_eq same) (quiet detail)
    | append_singleton later last =>
        rw [← List.cons_append, ← List.append_assoc] at split
        obtain ⟨earlier, same⟩ := List.append_inj' split rfl
        have same := List.head_eq_of_cons_eq same
        refine ⟨⟨before, detail, later, earlier, fun ended found => ?_⟩, fun ended isEnd => ?_⟩
        · exact redirected ended (List.mem_append_left _ found)
        · refine redirected ended ?_
          rw [← same, isEnd]
          exact List.mem_append_right _ (List.mem_singleton_self _)
  · rintro ⟨⟨before, detail, later, rfl, redirected⟩, last⟩
    refine ⟨before, detail, later ++ [action], by simp, fun ended found => ?_⟩
    cases List.mem_append.mp found with
    | inl earlier => exact redirected ended earlier
    | inr own => exact last ended (List.mem_singleton.mp own).symm

-- What is documented of a reaction: how the indicator was before the event, and how it is after it.
def Reaction.Tells (before after : Bool) : Reaction → Prop
  | .progressStarted => before = false ∧ after = true
  | .progressAlreadyRunning => before = true ∧ after = true
  | .progressKeptForRedirect => before = true ∧ after = true
  | .progressFinished => before = true ∧ after = false
  | .progressIdle => before = false ∧ after = false
  | .networkErrorShown _ => after = before
  | .swapAllowed => after = before
  | .swapSuppressed _ => after = before

inductive IndicatorStep {P : Type} [ProgressIndicator P] (redirected : Bool) (indicator : P) :
    LifecycleEvent → Reaction → P → Prop
  | started (idle : ProgressIndicator.isStarted indicator = false) :
      IndicatorStep redirected indicator .beforeSend .progressStarted (ProgressIndicator.start indicator)
  | alreadyRunning (running : ProgressIndicator.isStarted indicator = true) :
      IndicatorStep redirected indicator .beforeSend .progressAlreadyRunning indicator
  | kept (follows : redirected = true) :
      IndicatorStep redirected indicator .afterRequest .progressKeptForRedirect indicator
  | finished (last : redirected = false) (running : ProgressIndicator.isStarted indicator = true) :
      IndicatorStep redirected indicator .afterRequest .progressFinished (ProgressIndicator.done indicator)
  | idle (last : redirected = false) (idle : ProgressIndicator.isStarted indicator = false) :
      IndicatorStep redirected indicator .afterRequest .progressIdle indicator
  | failed (text : String) : IndicatorStep redirected indicator .sendError (.networkErrorShown text) indicator
  | allowed : IndicatorStep redirected indicator .beforeSwap .swapAllowed indicator
  | suppressed (suppression : Suppression) :
      IndicatorStep redirected indicator .beforeSwap (.swapSuppressed suppression) indicator

theorem Coordinator.handle_indicator {P T : Type} [ProgressIndicator P] [ToastSink T] (coordinator : Coordinator P T)
    (event : LifecycleEvent) (detail : EventDetail) :
    IndicatorStep (detail.transaction.hasHeader coordinator.settings.swap.redirectHeader) coordinator.progress event
      (coordinator.handle event detail).2.2 (coordinator.handle event detail).1.progress := by
  have handles := coordinator.handle_cases event detail
  generalize coordinator.handle event detail = result at handles
  cases handles with
  | started idle => exact .started idle
  | alreadyRunning running => exact .alreadyRunning running
  | kept follows => exact .kept follows
  | finished last running => exact .finished last running
  | idle last idle => exact .idle last idle
  | failed => exact .failed _
  | allowed => exact .allowed
  | suppressed => exact .suppressed _

namespace IndicatorStep

variable {P : Type} [ProgressIndicator P] {redirected : Bool} {indicator next : P} {event : LifecycleEvent}
  {reaction : Reaction}

theorem send (step : IndicatorStep redirected indicator .beforeSend reaction next) :
    reaction = (if ProgressIndicator.isStarted indicator then .progressAlreadyRunning else .progressStarted) ∧
      (ProgressIndicator.isStarted indicator = true → next = indicator) := by
  cases step with
  | started idle => simp [idle]
  | alreadyRunning running => simp [running]

theorem ended (step : IndicatorStep redirected indicator .afterRequest reaction next) :
    reaction = if redirected then .progressKeptForRedirect
      else if ProgressIndicator.isStarted indicator then .progressFinished else .progressIdle := by
  cases step with
  | kept follows => simp [follows]
  | finished last running => simp [last, running]
  | idle last idle => simp [last, idle]

-- A redirect is looked for before the indicator is, so its reaction speaks of
-- a running indicator also where none runs. No other reaction is wrong.
theorem tells_iff {usable : P → Prop} (obeys : ProgressIndicator.Obeys usable) (ready : usable indicator)
    (step : IndicatorStep redirected indicator event reaction next) :
    reaction.Tells (ProgressIndicator.isStarted indicator) (ProgressIndicator.isStarted next) ↔
      ¬ (event = .afterRequest ∧ redirected = true ∧ ProgressIndicator.isStarted indicator = false) := by
  cases step with
  | started idle => simp [Reaction.Tells, idle, (obeys.start indicator ready).2]
  | alreadyRunning running => simp [Reaction.Tells, running]
  | kept follows => simp [Reaction.Tells, follows]
  | finished last running => simp [Reaction.Tells, last, running, (obeys.done indicator ready).2]
  | idle last idle => simp [Reaction.Tells, last, idle]
  | failed text => simp [Reaction.Tells]
  | allowed => simp [Reaction.Tells]
  | suppressed suppression => simp [Reaction.Tells]

theorem kept_next (step : IndicatorStep true indicator .afterRequest reaction next) :
    reaction = .progressKeptForRedirect ∧ next = indicator := by
  cases step with
  | kept follows => exact ⟨rfl, rfl⟩
  | finished last running => cases last
  | idle last idle => cases last

end IndicatorStep

structure ProgressBar.Tracks (bar : ProgressBar) (header : String) (actions : List PageAction)
    (reactions : List Reaction) : Prop where
  usable : bar.IsUsable
  running : bar.isStarted = true ↔ IsAwaited header actions
  starts : bar.starts = reactions.count .progressStarted
  completions : bar.completions = reactions.count .progressFinished

namespace ProgressBar.Tracks

variable {bar next : ProgressBar} {header : String} {actions : List PageAction} {reactions : List Reaction}

theorem pass (tracks : bar.Tracks header actions reactions) (action : PageAction)
    (apart : ∀ event detail, action = .event event detail → event = .sendError ∨ event = .beforeSwap)
    (usable : next.IsUsable) (running : next.isStarted = bar.isStarted) (starts : next.starts = bar.starts)
    (completions : next.completions = bar.completions) :
    next.Tracks header (actions ++ [action]) reactions where
  usable := usable
  running := by
    rw [awaited_snoc header actions action, running, tracks.running]
    · refine ⟨fun awaited => ⟨awaited, fun ended same => ?_⟩, And.left⟩
      cases apart _ _ same <;> contradiction
    · intro detail same
      cases apart _ _ same <;> contradiction
  starts := starts.trans tracks.starts
  completions := completions.trans tracks.completions

theorem unheard (tracks : bar.Tracks header actions reactions) (reaction : Reaction)
    (notStarted : reaction ≠ .progressStarted) (notFinished : reaction ≠ .progressFinished) :
    bar.Tracks header actions (reactions ++ [reaction]) where
  usable := tracks.usable
  running := tracks.running
  starts := by simp [tracks.starts, notStarted]
  completions := by simp [tracks.completions, notFinished]

theorem event (tracks : bar.Tracks header actions reactions) (event : LifecycleEvent) (detail : EventDetail)
    (reaction : Reaction) (step : IndicatorStep (detail.transaction.hasHeader header) bar event reaction next) :
    next.Tracks header (actions ++ [.event event detail]) (reactions ++ [reaction]) := by
  have ends (ended : EventDetail) (same : PageAction.event .afterRequest detail = .event .afterRequest ended) :
      ended = detail := by
    cases same
    rfl
  cases step with
  | started idle =>
      obtain ⟨starts, completions⟩ := bar.start_counts tracks.usable idle
      exact {
        usable := bar.start_usable tracks.usable
        running := iff_of_true (bar.start_runs tracks.usable) (awaited_send header actions detail)
        starts := by simp [ProgressIndicator.start, starts, tracks.starts]
        completions := by simp [ProgressIndicator.start, completions, tracks.completions] }
  | alreadyRunning running =>
      refine unheard ⟨tracks.usable, ?_, tracks.starts, tracks.completions⟩ _ (by simp) (by simp)
      exact iff_of_true running (awaited_send header actions detail)
  | kept follows =>
      refine unheard ⟨tracks.usable, ?_, tracks.starts, tracks.completions⟩ _ (by simp) (by simp)
      rw [awaited_snoc header actions _ (by simp), tracks.running]
      exact ⟨fun awaited => ⟨awaited, fun ended same => ends ended same ▸ follows⟩, And.left⟩
  | finished last running =>
      obtain ⟨starts, completions⟩ := bar.done_counts tracks.usable running
      have settled : ¬ IsAwaited header (actions ++ [.event .afterRequest detail]) := by
        rw [awaited_snoc header actions _ (by simp)]
        rintro ⟨-, redirected⟩
        rw [redirected detail rfl] at last
        cases last
      exact {
        usable := bar.done_usable tracks.usable
        running := iff_of_false (Bool.eq_false_iff.mp (bar.done_ends tracks.usable)) settled
        starts := by simp [ProgressIndicator.done, starts, tracks.starts]
        completions := by simp [ProgressIndicator.done, completions, tracks.completions] }
  | idle last idle =>
      refine unheard ⟨tracks.usable, ?_, tracks.starts, tracks.completions⟩ _ (by simp) (by simp)
      have notRunning : ¬ bar.isStarted = true := Bool.eq_false_iff.mp idle
      rw [awaited_snoc header actions _ (by simp), ← tracks.running]
      exact iff_of_false notRunning fun awaited => notRunning awaited.1
  | failed text =>
      exact (tracks.pass _ (by simp) tracks.usable rfl rfl rfl).unheard _ (by simp) (by simp)
  | allowed =>
      exact (tracks.pass _ (by simp) tracks.usable rfl rfl rfl).unheard _ (by simp) (by simp)
  | suppressed suppression =>
      exact (tracks.pass _ (by simp) tracks.usable rfl rfl rfl).unheard _ (by simp) (by simp)

end ProgressBar.Tracks

def OnlyTicks (actions : List PageAction) : Prop := ∀ action, .bar action ∈ actions → action = .trickle

theorem run_tracks (settings : FeedbackSettings) (accepted : settings.progress.IsAccepted) (actions : List PageAction)
    (ticks : OnlyTicks actions) :
    ((Coordinator.ofSettings settings).run actions).1.progress.Tracks settings.swap.redirectHeader actions
      (reactionsOf ((Coordinator.ofSettings settings).run actions).2) := by
  induction actions using List.reverseRecOn with
  | nil =>
      exact {
        usable := accepted
        running := iff_of_false Bool.false_ne_true (not_awaited_nil _)
        starts := rfl
        completions := rfl }
  | append_singleton actions action ih =>
      have tracks := ih fun action found => ticks action (List.mem_append_left _ found)
      have sameSettings := (Coordinator.ofSettings settings).run_settings actions
      rw [Coordinator.run_snoc]
      generalize (Coordinator.ofSettings settings).run actions = before at tracks sameSettings
      obtain ⟨page, outcomes⟩ := before
      simp only [reactionsOf, List.filterMap_append]
      cases action with
      | event event detail =>
          have step := page.handle_indicator event detail
          rw [sameSettings] at step
          exact tracks.event event detail _ step
      | bar action =>
          obtain rfl := ticks action (List.mem_append_right _ (List.mem_singleton_self _))
          obtain ⟨starts, completions⟩ := page.progress.trickle_counts tracks.usable
          rw [show [(page.act (.bar .trickle)).2].filterMap (·.reaction?) = [] from rfl, List.append_nil]
          exact tracks.pass _ (by simp) (page.progress.trickle_usable tracks.usable)
            (page.progress.trickle_is_started tracks.usable) starts completions
      | screen action =>
          rw [show [(page.act (.screen action)).2].filterMap (·.reaction?) = [] from rfl, List.append_nil]
          exact tracks.pass _ (by simp) tracks.usable rfl rfl rfl

end PageFeedback
