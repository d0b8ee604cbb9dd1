import PageFeedback.Proofs.Page.Indicator
import PageFeedback.Proofs.Settings.RoundTrip
import PageFeedback.Replay.Basic

set_option autoImplicit false

namespace PageFeedback

theorem indicator_automaton (file : File) (settings : FeedbackSettings) (actions : List PageAction)
    (loaded : FeedbackSettings.load file = .ok settings) (ticks : OnlyTicks actions) :
    let header := settings.swap.redirectHeader
    let page := ((Coordinator.ofSettings settings).run actions).1
    let reactions := reactionsOf ((Coordinator.ofSettings settings).run actions).2
    let running := page.progress.isStarted
    (running = true ↔ IsAwaited header actions) ∧
    page.progress.starts = reactions.count .progressStarted ∧
    page.progress.completions = reactions.count .progressFinished ∧
    ∀ detail,
      let sent := page.handle .beforeSend detail
      let ended := page.handle .afterRequest detail
      sent.2.2 = (if running then .progressAlreadyRunning else .progressStarted) ∧
      (running = true → sent.1.progress.status = page.progress.status) ∧
      ended.2.2 =
        if detail.transaction.hasHeader header then .progressKeptForRedirect
        else if running then .progressFinished else .progressIdle := by
  intro header page reactions running
  have accepted := settings.progress_accepted (FeedbackSettings.load_accepted file settings loaded)
  have tracks : page.progress.Tracks header actions reactions := run_tracks settings accepted actions ticks
  have sameSettings : page.settings = settings := (Coordinator.ofSettings settings).run_settings actions
  refine ⟨tracks.running, tracks.starts, tracks.completions, fun detail => ?_⟩
  intro sent ended
  obtain ⟨atSend, stays⟩ := (page.handle_indicator .beforeSend detail).send
  have atEnd := (page.handle_indicator .afterRequest detail).ended
  rw [sameSettings] at atEnd
  exact ⟨atSend, fun runs => congrArg ProgressBar.status (stays runs), atEnd⟩

-- Two requests at once, of which the first to end is a redirect, and a third one after both.
theorem indicator_of_three_requests :
    let settings : FeedbackSettings := { FeedbackSettings.default with swap := ⟨.nonSuccess, "HX-Redirect"⟩ }
    let file : File := .content (Text.encode settings.toToml.toList)
    let plain : EventDetail := ⟨⟨200, "", .empty⟩, true⟩
    let redirect : EventDetail := ⟨⟨200, "", .ofList [("hx-redirect", "/next")]⟩, true⟩
    let actions : List PageAction :=
      [.event .beforeSend plain, .bar .trickle, .event .beforeSend plain, .event .afterRequest redirect,
        .event .afterRequest plain, .bar .trickle, .event .beforeSend plain]
    let page := ((Coordinator.ofSettings settings).run actions).1
    FeedbackSettings.load file = .ok settings ∧ OnlyTicks actions ∧ page.progress.isStarted = true ∧
      page.progress.starts = 2 ∧ page.progress.completions = 1 := by
  intro settings file plain redirect actions page
  have loaded : FeedbackSettings.load file = .ok settings := by
    have accepted : settings.validate = .ok () := by decide +kernel
    have read := settings.load_saved
    rwa [accepted] at read
  have ticks : OnlyTicks actions := by
    intro action found
    simpa [actions] using found
  obtain ⟨running, starts, completions, -⟩ := indicator_automaton file settings actions loaded ticks
  refine ⟨loaded, ticks, ?_, ?_, ?_⟩
  · exact running.mpr ⟨actions.take 6, plain, [], rfl, fun _ found => nomatch found⟩
  · rw [starts]
    decide +kernel
  · rw [completions]
    decide +kernel

theorem reactions_tell_of_indicator (settings : FeedbackSettings) (actions : List PageAction) (event : LifecycleEvent)
    (detail : EventDetail) (accepted : settings.validate = .ok ()) (ticks : OnlyTicks actions) :
    let page := ((Coordinator.ofSettings settings).run actions).1
    let next := (page.handle event detail).1
    let reaction := (page.handle event detail).2.2
    let redirected := detail.transaction.hasHeader settings.swap.redirectHeader
    let mistaken := event = .afterRequest ∧ redirected = true ∧ page.progress.isStarted = false
    (reaction.Tells page.progress.isStarted next.progress.isStarted ↔ ¬ mistaken) ∧
    (mistaken → reaction = .progressKeptForRedirect ∧ next.progress.isStarted = false) := by
  intro page next reaction redirected mistaken
  have tracks := run_tracks settings (settings.progress_accepted accepted) actions ticks
  have sameSettings : page.settings = settings := (Coordinator.ofSettings settings).run_settings actions
  have step := page.handle_indicator event detail
  rw [sameSettings] at step
  refine ⟨step.tells_iff ProgressBar.bar_obeys tracks.usable, ?_⟩
  rintro ⟨rfl, follows, idle⟩
  rw [show detail.transaction.hasHeader settings.swap.redirectHeader = true from follows] at step
  obtain ⟨kept, same⟩ := step.kept_next
  exact ⟨kept, (congrArg ProgressBar.isStarted same).trans idle⟩

theorem redirect_of_one_request :
    let settings := FeedbackSettings.default
    let redirect : EventDetail := ⟨⟨200, "", .ofList [("HX-Location", "/next")]⟩, true⟩
    let actions : List PageAction := [.event .beforeSend redirect, .bar .trickle]
    let page := ((Coordinator.ofSettings settings).run actions).1
    let next := (page.handle .afterRequest redirect).1
    settings.validate = .ok () ∧ OnlyTicks actions ∧
      (page.handle .afterRequest redirect).2.2.Tells page.progress.isStarted next.progress.isStarted := by
  intro settings redirect actions page next
  have accepted : settings.validate = .ok () := FeedbackSettings.default_accepted
  have ticks : OnlyTicks actions := by
    intro action found
    simpa [actions] using found
  refine ⟨accepted, ticks, ?_⟩
  refine (reactions_tell_of_indicator settings actions .afterRequest redirect accepted ticks).1.mpr ?_
  rintro ⟨-, -, idle⟩
  exact absurd idle (by decide +kernel)

-- The indicator is shared: the first request to end stops it, and the redirect of
-- the second is then said to keep it running.
theorem redirect_after_other_request :
    let plain : Transaction := ⟨200, "", .empty⟩
    let redirect : Transaction := ⟨200, "", .ofList [("HX-Location", "/next")]⟩
    let entries : List TranscriptEntry :=
      [⟨1, .beforeSend, plain⟩, ⟨2, .beforeSend, redirect⟩, ⟨3, .beforeSwap, plain⟩, ⟨4, .afterRequest, plain⟩,
        ⟨5, .beforeSwap, redirect⟩, ⟨6, .afterRequest, redirect⟩]
    let steps := ((Coordinator.ofSettings .default).replay entries).2
    FeedbackSettings.default.validate = .ok () ∧
      steps.map (fun step => (step.reaction, step.progressRunning)) =
        [(.progressStarted, true), (.progressAlreadyRunning, true), (.swapAllowed, true), (.progressFinished, false),
          (.swapAllowed, false), (.progressKeptForRedirect, false)] ∧
      ¬ Reaction.Tells false false .progressKeptForRedirect ∧
      ¬ ∀ step ∈ steps, step.reaction = .progressKeptForRedirect → step.progressRunning = true := by
  refine ⟨FeedbackSettings.default_accepted, by decide +kernel, by simp [Reaction.Tells], by decide +kernel⟩

end PageFeedback
