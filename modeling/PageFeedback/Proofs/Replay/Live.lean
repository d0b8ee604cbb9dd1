import PageFeedback.CommandLine.Run
import PageFeedback.Proofs.Replay.Agreement
import PageFeedback.Proofs.Toast.Timing

set_option autoImplicit false

namespace PageFeedback

def queueActions (looks : ToastSettings) (pauses : List Duration) (steps : List ReplayStep) : List QueueAction :=
  steps.flatMap fun step => (step.reaction.toast? looks).toList.map .push ++ pauses.map .advance

theorem queue_actions_cons (looks : ToastSettings) (pauses : List Duration) (step : ReplayStep)
    (steps : List ReplayStep) :
    queueActions looks pauses (step :: steps) =
      (step.reaction.toast? looks).toList.map .push ++ (pauses.map .advance ++ queueActions looks pauses steps) := by
  rw [queueActions, List.flatMap_cons, List.append_assoc]
  rfl

theorem present_all_run (queue : ToastQueue) (toasts : List Toast) :
    presentAll queue toasts = queue.run (toasts.map .push) := by
  induction toasts generalizing queue with
  | nil => rfl
  | cons toast toasts ih => exact ih (queue.push toast).1

namespace Coordinator

theorem replay_entry_queue {P : Type} [ProgressIndicator P] (coordinator : Coordinator P ToastQueue)
    (entry : TranscriptEntry) :
    (coordinator.replayEntry entry).1.settings = coordinator.settings ∧
      (coordinator.replayEntry entry).1.toasts = coordinator.toasts.run
        (((coordinator.replayEntry entry).2.reaction.toast? coordinator.settings.toast).toList.map .push) := by
  refine ⟨handle_settings coordinator entry.event _, ?_⟩
  exact (handle_toasts coordinator entry.event _).trans (present_all_run _ _)

theorem replay_queue {P : Type} [ProgressIndicator P] (coordinator : Coordinator P ToastQueue)
    (entries : List TranscriptEntry) :
    (coordinator.replay entries).1.toasts =
      coordinator.toasts.run (queueActions coordinator.settings.toast [] (coordinator.replay entries).2) := by
  induction entries generalizing coordinator with
  | nil => rfl
  | cons entry entries ih =>
      obtain ⟨settings, toasts⟩ := coordinator.replay_entry_queue entry
      have later := ih (coordinator.replayEntry entry).1
      rw [settings, toasts] at later
      simp only [replay, queue_actions_cons, ToastQueue.run_append]
      exact later

theorem replay_length {P T : Type} [ProgressIndicator P] [ToastSink T] (coordinator : Coordinator P T)
    (entries : List TranscriptEntry) : (coordinator.replay entries).2.length = entries.length := by
  induction entries generalizing coordinator with
  | nil => rfl
  | cons entry entries ih => exact congrArg (· + 1) (ih _)

theorem replay_live_queue (coordinator : Coordinator TerminalBar ToastQueue) (pause : Duration)
    (entries : List TranscriptEntry) :
    (coordinator.replayLive pause entries).1.toasts =
      coordinator.toasts.run (queueActions coordinator.settings.toast [pause]
        ((coordinator.replayLive pause entries).2.map (·.step))) := by
  induction entries generalizing coordinator with
  | nil => rfl
  | cons entry entries ih =>
      obtain ⟨settings, toasts⟩ := coordinator.replay_entry_queue entry
      have passed : ((coordinator.replayEntry entry).1.pass pause).1.toasts =
          (coordinator.replayEntry entry).1.toasts.run [.advance pause] := rfl
      have same : ((coordinator.replayEntry entry).1.pass pause).1.settings = coordinator.settings := settings
      have later := ih ((coordinator.replayEntry entry).1.pass pause).1
      rw [passed, same, toasts] at later
      simp only [replayLive, List.map_cons, queue_actions_cons, ToastQueue.run_append]
      exact later

end Coordinator

def totalTime (pauses : List Duration) : Nat := (pauses.map (·.nanoseconds)).sum

theorem pauses_elapsed (pauses : List Duration) :
    ((pauses.map QueueAction.advance).map (·.elapsed)).sum = totalTime pauses := by
  rw [List.map_map]
  rfl

theorem queue_actions_elapsed (looks : ToastSettings) (pauses : List Duration) (steps : List ReplayStep) :
    ((queueActions looks pauses steps).map (·.elapsed)).sum = steps.length * totalTime pauses := by
  induction steps with
  | nil => exact (Nat.zero_mul _).symm
  | cons step steps ih =>
      have pushed : (((step.reaction.toast? looks).toList.map QueueAction.push).map (·.elapsed)).sum = 0 := by
        cases step.reaction.toast? looks <;> rfl
      rw [queue_actions_cons, List.map_append, List.sum_append, List.map_append, List.sum_append, ih, pushed,
        pauses_elapsed, List.length_cons, Nat.succ_mul]
      omega

theorem queue_actions_anonymous (looks : ToastSettings) (pauses : List Duration) (steps : List ReplayStep)
    (id : ToastId) :
    ∀ action ∈ pauses.map .advance ++ queueActions looks pauses steps,
      id.focusBy? action = none ∧ id.isDismissedBy action = false := by
  intro action found
  cases List.mem_append.mp found with
  | inl paused =>
      obtain ⟨pause, -, rfl⟩ := List.mem_map.mp paused
      exact ⟨rfl, rfl⟩
  | inr stepped =>
      obtain ⟨step, -, inStep⟩ := List.mem_flatMap.mp stepped
      cases List.mem_append.mp inStep with
      | inl pushed =>
          obtain ⟨toast, -, rfl⟩ := List.mem_map.mp pushed
          exact ⟨rfl, rfl⟩
      | inr paused =>
          obtain ⟨pause, -, rfl⟩ := List.mem_map.mp paused
          exact ⟨rfl, rfl⟩

namespace ToastSettings

-- Whether toasts of these looks stay through some rounds of pauses.
def Stays (looks : ToastSettings) (round rounds : Nat) : Prop :=
  looks.durationMs = 0 ∨ rounds * round < (Duration.ofMilliseconds looks.durationMs.toNat).nanoseconds

instance (looks : ToastSettings) (round rounds : Nat) : Decidable (looks.Stays round rounds) :=
  inferInstanceAs (Decidable (_ ∨ _))

theorem Stays.fewer {looks : ToastSettings} {round rounds fewer : Nat} (stays : looks.Stays round rounds)
    (atMost : fewer ≤ rounds) : looks.Stays round fewer :=
  stays.imp_right fun less => Nat.lt_of_le_of_lt (Nat.mul_le_mul_right round atMost) less

theorem stays_of_no_time (looks : ToastSettings) (rounds : Nat) : looks.Stays 0 rounds := by
  by_cases persistent : looks.durationMs = 0
  · exact .inl persistent
  · have positive : 0 < looks.durationMs.toNat :=
      Nat.pos_of_ne_zero fun zero => persistent (UInt64.toNat_inj.mp zero)
    refine .inr ?_
    rw [Nat.mul_zero]
    exact Nat.mul_pos positive (by decide)

theorem stays_iff (looks : ToastSettings) (milliseconds rounds : Nat) :
    looks.Stays (totalTime [Duration.ofMilliseconds milliseconds]) rounds ↔
      looks.durationMs = 0 ∨ rounds * milliseconds < looks.durationMs.toNat := by
  have one : totalTime [Duration.ofMilliseconds milliseconds] = milliseconds * 1000000 := Nat.add_zero _
  rw [Stays, one, Duration.ofMilliseconds, ← Nat.mul_assoc, Nat.mul_lt_mul_right (by decide)]

def shownBy (looks : ToastSettings) (steps : List ReplayStep) : List Toast :=
  steps.filterMap (·.reaction.toast? looks)

def lasting (looks : ToastSettings) (round : Nat) : List ReplayStep → List Toast
  | [] => []
  | step :: steps =>
      (if looks.Stays round (steps.length + 1) then (step.reaction.toast? looks).toList else []) ++
        lasting looks round steps

theorem shown_by_cons (looks : ToastSettings) (step : ReplayStep) (steps : List ReplayStep) :
    looks.shownBy (step :: steps) = (step.reaction.toast? looks).toList ++ looks.shownBy steps := by
  rw [shownBy, List.filterMap_cons]
  cases step.reaction.toast? looks <;> rfl

theorem lasting_all (looks : ToastSettings) (round : Nat) (steps : List ReplayStep)
    (stays : looks.Stays round steps.length) : looks.lasting round steps = looks.shownBy steps := by
  induction steps with
  | nil => rfl
  | cons step steps ih =>
      rw [lasting, if_pos (show looks.Stays round (steps.length + 1) from stays), shown_by_cons,
        ih (stays.fewer (Nat.le_succ _))]

theorem lasting_suffix (looks : ToastSettings) (round : Nat) (steps : List ReplayStep) :
    looks.lasting round steps <:+ looks.shownBy steps := by
  induction steps with
  | nil => exact List.suffix_rfl
  | cons step steps ih =>
      by_cases stays : looks.Stays round (steps.length + 1)
      · -- When the toast of the first step stays, all later ones do, since less time counts for them.
        exact ⟨[], looks.lasting_all round (step :: steps) stays⟩
      · rw [lasting, if_neg stays, shown_by_cons]
        exact ih.trans (List.suffix_append _ _)

end ToastSettings

theorem toast_of_looks {reaction : Reaction} {looks : ToastSettings} {toast : Toast}
    (shown : reaction.toast? looks = some toast) : toast.durationMs = looks.durationMs := by
  obtain ⟨text, -, rfl⟩ := Option.map_eq_some_iff.mp shown
  rfl

theorem spent_iff (looks : ToastSettings) (pauses : List Duration) (steps : List ReplayStep) (id : ToastId)
    (toast : Toast) (sameTime : toast.durationMs = looks.durationMs) :
    toast.IsSpent id (pauses.map .advance ++ queueActions looks pauses steps) ↔
      ¬ looks.Stays (totalTime pauses) (steps.length + 1) := by
  have anonymous := queue_actions_anonymous looks pauses steps id
  have unfocused : ∀ action ∈ pauses.map .advance ++ queueActions looks pauses steps, action ≠ .focus id := by
    intro action found focus
    have unnamed := (anonymous action found).1
    rw [focus, ToastId.focusBy?, if_pos rfl] at unnamed
    cases unnamed
  have time : id.timeIn toast.stopOnFocus (pauses.map .advance ++ queueActions looks pauses steps) =
      (steps.length + 1) * totalTime pauses := by
    rw [ToastId.time_in_unfocused id _ _ unfocused, List.map_append, List.sum_append, pauses_elapsed,
      queue_actions_elapsed, Nat.succ_mul, Nat.add_comm]
  rw [Toast.IsSpent, time, ToastSettings.Stays, not_or, Nat.not_lt, Toast.limit, sameTime]

theorem fresh_run_steps (looks : ToastSettings) (pauses : List Duration) (steps : List ReplayStep) (id : ToastId)
    (toast : Toast) (sameTime : toast.durationMs = looks.durationMs) :
    (((ActiveToast.fresh id toast).run (pauses.map .advance ++ queueActions looks pauses steps)).map (·.toast)) =
      if looks.Stays (totalTime pauses) (steps.length + 1) then some toast else none := by
  have anonymous := queue_actions_anonymous looks pauses steps id
  have undismissed : id.isDismissedIn (pauses.map .advance ++ queueActions looks pauses steps) = false :=
    List.any_eq_false.mpr fun action found => Bool.eq_false_iff.mp (anonymous action found).2
  have spent := spent_iff looks pauses steps id toast sameTime
  rw [ActiveToast.fresh_run]
  by_cases stays : looks.Stays (totalTime pauses) (steps.length + 1)
  · rw [if_neg (by simp [undismissed, spent, stays]), if_pos stays]
    rfl
  · rw [if_pos (.inr (spent.mpr stays)), if_neg stays]
    rfl

theorem newcomers_paused (lastId : Nat) (pauses : List Duration) (actions : List QueueAction) :
    ToastQueue.newcomers lastId (pauses.map .advance ++ actions) = ToastQueue.newcomers lastId actions := by
  induction pauses with
  | nil => rfl
  | cons pause pauses ih => exact ih

theorem newcomers_steps (looks : ToastSettings) (pauses : List Duration) (steps : List ReplayStep) (lastId : Nat) :
    (ToastQueue.newcomers lastId (queueActions looks pauses steps)).map (·.toast) =
      looks.lasting (totalTime pauses) steps := by
  induction steps generalizing lastId with
  | nil => rfl
  | cons step steps ih =>
      rw [queue_actions_cons, ToastSettings.lasting]
      cases shown : step.reaction.toast? looks with
      | none =>
          change (ToastQueue.newcomers lastId (pauses.map .advance ++ queueActions looks pauses steps)).map _ = _
          rw [newcomers_paused, ih]
          split <;> rfl
      | some toast =>
          -- The first toast lives through all rounds, and the later ones are those of the induction.
          have own := fresh_run_steps looks pauses steps ⟨lastId + 1⟩ toast (toast_of_looks shown)
          change (((ActiveToast.fresh ⟨lastId + 1⟩ toast).run
              (pauses.map .advance ++ queueActions looks pauses steps)).toList ++
            ToastQueue.newcomers (lastId + 1) (pauses.map .advance ++ queueActions looks pauses steps)).map _ = _
          rw [List.map_append, newcomers_paused, ih, ← Option.toList_map, own]
          split <;> rfl

theorem toasts_run_steps (looks : ToastSettings) (pauses : List Duration) (steps : List ReplayStep) :
    (ToastQueue.empty.run (queueActions looks pauses steps)).toasts = looks.lasting (totalTime pauses) steps := by
  rw [ToastQueue.toasts, ToastQueue.run_active _ _ ToastQueue.empty_numbered]
  exact newcomers_steps looks pauses steps 0

theorem pushes_steps (looks : ToastSettings) (pauses : List Duration) (steps : List ReplayStep) :
    pushes (queueActions looks pauses steps) = (looks.shownBy steps).length := by
  induction steps with
  | nil => rfl
  | cons step steps ih =>
      have paused : pushes (pauses.map .advance) = 0 := by
        refine List.countP_eq_zero.mpr fun action found => ?_
        obtain ⟨pause, -, rfl⟩ := List.mem_map.mp found
        exact Bool.false_ne_true
      have pushed : pushes ((step.reaction.toast? looks).toList.map .push) =
          (step.reaction.toast? looks).toList.length := by
        cases step.reaction.toast? looks <;> rfl
      rw [queue_actions_cons, ToastSettings.shown_by_cons, List.length_append, ← ih, ← pushed]
      unfold pushes at *
      rw [List.countP_append, List.countP_append, paused, Nat.zero_add]

theorem step_toast_iff (looks : ToastSettings) (pauses : List Duration) (before after : List ReplayStep)
    (step : ReplayStep) (toast : Toast) (shown : step.reaction.toast? looks = some toast) :
    let id : ToastId := ⟨(looks.shownBy before).length + 1⟩
    let queue := ToastQueue.empty.run (queueActions looks pauses (before ++ step :: after))
    ((∃ active ∈ queue.active, active.id = id) ↔ looks.Stays (totalTime pauses) (after.length + 1)) ∧
      ∀ active ∈ queue.active, active.id = id → active.toast = toast := by
  intro id queue
  have actions : queueActions looks pauses (before ++ step :: after) =
      queueActions looks pauses before ++ .push toast :: (pauses.map .advance ++ queueActions looks pauses after) := by
    have split : queueActions looks pauses (before ++ step :: after) =
        queueActions looks pauses before ++ queueActions looks pauses (step :: after) := List.flatMap_append
    rw [split, queue_actions_cons, shown]
    rfl
  -- The toast has the number after those of the earlier steps, and meets a round of pauses for
  -- its own step and one for each later step.
  have own := fresh_run_steps looks pauses after id toast (toast_of_looks shown)
  have onScreen (last : ActiveToast) : last ∈ queue.active ∧ last.id = id ↔
      (ActiveToast.fresh id toast).run (pauses.map .advance ++ queueActions looks pauses after) = some last := by
    change last ∈ (ToastQueue.empty.run (queueActions looks pauses (before ++ step :: after))).active ∧ _ ↔ _
    have number : id = ⟨pushes (queueActions looks pauses before) + 1⟩ := by rw [pushes_steps]
    rw [actions, number]
    exact ToastQueue.mem_run_push_iff _ _ toast last
  constructor
  · by_cases stays : looks.Stays (totalTime pauses) (after.length + 1)
    · rw [if_pos stays] at own
      obtain ⟨last, whole, -⟩ := Option.map_eq_some_iff.mp own
      exact iff_of_true ⟨last, (onScreen last).mpr whole⟩ stays
    · rw [if_neg stays, Option.map_eq_none_iff] at own
      refine iff_of_false ?_ stays
      rintro ⟨last, present⟩
      rw [(onScreen last).mp present] at own
      cases own
  · intro active found same
    rw [(onScreen active).mp ⟨found, same⟩] at own
    split at own
    · exact Option.some.inj own
    · cases own

theorem live_replay_agrees (options : ReplayOptions) (settings : FeedbackSettings) (entries : List TranscriptEntry)
    (within : Option LogSpan) (accepted : settings.validate = .ok ()) :
    let plain := (replayEntries { options with live := false } settings entries within).2
    let live := (replayEntries { options with live := true } settings entries within).2
    let plainQueue := ((Coordinator.ofSettings settings).replay entries).1.toasts
    let liveQueue := ((Coordinator.ofTerminal settings).replayLive
      (Duration.ofMilliseconds options.stepMs.toNat) entries).1.toasts
    let persistent := settings.toast.durationMs = 0
    live.steps = plain.steps ∧ plain.steps.length = entries.length ∧
    live.progressRunning = plain.progressRunning ∧
    plain.toasts = plainQueue.toasts ∧ live.toasts = liveQueue.toasts ∧
    live.toasts <:+ plain.toasts ∧
    (∀ before step after toast, plain.steps = before ++ step :: after →
      step.reaction.toast? settings.toast = some toast →
      let place := before.length + 1
      let id : ToastId := ⟨(settings.toast.shownBy before).length + 1⟩
      (∃ active ∈ plainQueue.active, active.id = id ∧ active.toast = toast) ∧
      ((∃ active ∈ liveQueue.active, active.id = id) ↔
        persistent ∨ (entries.length - place + 1) * options.stepMs.toNat < settings.toast.durationMs.toNat) ∧
      ∀ active ∈ liveQueue.active, active.id = id → active.toast = toast) ∧
    (persistent ∨ options.stepMs = 0 → live = plain) := by
  intro plain live plainQueue liveQueue persistent
  let pause := Duration.ofMilliseconds options.stepMs.toNat
  let looks := settings.toast
  obtain ⟨steps, agree⟩ := Coordinator.replay_live_agree ProgressBar.bar_obeys (Coordinator.ofSettings settings)
    (Coordinator.ofTerminal settings) (fresh_agree settings accepted) pause entries
  have sameSteps : live.steps = plain.steps := steps
  have sameRunning : live.progressRunning = plain.progressRunning := agree.running.symm
  have plainRun : plainQueue = ToastQueue.empty.run (queueActions looks [] plain.steps) :=
    Coordinator.replay_queue (Coordinator.ofSettings settings) entries
  have liveRun : liveQueue = ToastQueue.empty.run (queueActions looks [pause] plain.steps) := by
    rw [← sameSteps]
    exact Coordinator.replay_live_queue (Coordinator.ofTerminal settings) pause entries
  have plainToasts : plain.toasts = looks.shownBy plain.steps := by
    change plainQueue.toasts = _
    rw [plainRun, toasts_run_steps]
    exact looks.lasting_all 0 plain.steps (looks.stays_of_no_time _)
  have liveToasts : live.toasts = looks.lasting (totalTime [pause]) plain.steps := by
    change liveQueue.toasts = _
    rw [liveRun, toasts_run_steps]
  have length : plain.steps.length = entries.length := (Coordinator.ofSettings settings).replay_length entries
  refine ⟨sameSteps, length, sameRunning, rfl, rfl, ?_, ?_, ?_⟩
  · rw [liveToasts, plainToasts]
    exact looks.lasting_suffix _ _
  · intro before step after toast split shown place id
    have left : entries.length - place + 1 = after.length + 1 := by
      rw [← length, split, List.length_append, List.length_cons]
      omega
    obtain ⟨inPlain, ofPlain⟩ := step_toast_iff looks [] before after step toast shown
    obtain ⟨inLive, ofLive⟩ := step_toast_iff looks [pause] before after step toast shown
    rw [← split, ← plainRun] at inPlain ofPlain
    rw [← split, ← liveRun] at inLive ofLive
    obtain ⟨active, found, same⟩ := inPlain.mpr (looks.stays_of_no_time _)
    refine ⟨⟨active, found, same, ofPlain active found same⟩, ?_, ofLive⟩
    rw [inLive, left]
    exact looks.stays_iff options.stepMs.toNat (after.length + 1)
  · intro timeless
    -- Toasts that stay through all rounds are all that were shown, as in a plain replay.
    have stays : looks.Stays (totalTime [pause]) plain.steps.length := by
      refine timeless.elim .inl fun noPause => ?_
      have none : totalTime [pause] = 0 := by
        change (Duration.ofMilliseconds options.stepMs.toNat).nanoseconds + 0 = 0
        rw [noPause]
        rfl
      rw [none]
      exact looks.stays_of_no_time _
    have sameToasts : live.toasts = plain.toasts := by
      rw [liveToasts, plainToasts, looks.lasting_all _ _ stays]
    calc live = ⟨live.steps, live.toasts, live.progressRunning⟩ := rfl
      _ = ⟨plain.steps, plain.toasts, plain.progressRunning⟩ := by rw [sameSteps, sameToasts, sameRunning]
      _ = plain := rfl

-- Of two failures with 3 ms after each, only the
-- later is on screen when toasts stay for 5 ms.
theorem live_replay_of_two_failures :
    let settings := { FeedbackSettings.default with toast := { ToastSettings.default with durationMs := 5 } }
    let options : ReplayOptions := ⟨"failures.jsonl", .json, false, 3⟩
    let entries : List TranscriptEntry := [⟨1, .sendError, .unsent⟩, ⟨2, .sendError, .unsent⟩]
    let plain := (replayEntries { options with live := false } settings entries none).2
    let live := (replayEntries { options with live := true } settings entries none).2
    settings.validate = .ok () ∧ live.steps = plain.steps ∧ live.toasts <:+ plain.toasts ∧
      ¬ ∃ active ∈ ((Coordinator.ofTerminal settings).replayLive (Duration.ofMilliseconds 3) entries).1.toasts.active,
        active.id = ⟨1⟩ := by
  intro settings options entries plain live
  have accepted : settings.validate = .ok () := by decide +kernel
  obtain ⟨steps, -, -, -, -, suffix, onScreen, -⟩ := live_replay_agrees options settings entries none accepted
  obtain ⟨-, first, -⟩ := onScreen [] _ _ _ rfl rfl
  refine ⟨accepted, steps, suffix, fun present => ?_⟩
  exact absurd (first.mp present) (by decide +kernel)

end PageFeedback
