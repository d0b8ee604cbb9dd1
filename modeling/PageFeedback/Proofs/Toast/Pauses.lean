import PageFeedback.Proofs.Toast.Custody
import PageFeedback.Proofs.Toast.Timing

set_option autoImplicit false

namespace PageFeedback

theorem Duration.add_nanoseconds (first second : Duration) :
    (first + second).nanoseconds = first.nanoseconds + second.nanoseconds := rfl

namespace ActiveToast

variable {active next : ActiveToast}

def HasTime (active : ActiveToast) : Prop := ∀ left, active.remaining = some left → 0 < left.nanoseconds

theorem after_paused (paused : active.isPaused = true) (elapsed : Duration) : active.after elapsed = some active :=
  if_pos paused

theorem after_timed (running : ¬ active.isPaused = true) {left : Duration} (timed : active.remaining = some left)
    (elapsed : Duration) :
    active.after elapsed =
      if left.nanoseconds ≤ elapsed.nanoseconds then none
      else some { active with remaining := some ⟨left.nanoseconds - elapsed.nanoseconds⟩ } := by
  rw [after, if_neg running, timed]

theorem after_untimed (untimed : active.remaining = none) (elapsed : Duration) : active.after elapsed = some active := by
  rw [after, untimed]
  exact ite_self _

theorem after_after (active : ActiveToast) (first second : Duration) :
    (active.after first).bind (·.after second) = active.after (first + second) := by
  by_cases paused : active.isPaused = true
  · rw [after_paused paused, after_paused paused]
    exact after_paused paused second
  · cases remaining : active.remaining with
    | none =>
        rw [after_untimed remaining, after_untimed remaining]
        exact after_untimed remaining second
    | some left =>
        rw [after_timed paused remaining, after_timed paused remaining, Duration.add_nanoseconds]
        by_cases usedUp : left.nanoseconds ≤ first.nanoseconds
        · rw [if_pos usedUp, if_pos (Nat.le_add_right_of_le usedUp)]
          rfl
        · let shortened : ActiveToast := { active with remaining := some ⟨left.nanoseconds - first.nanoseconds⟩ }
          have running : ¬ shortened.isPaused = true := paused
          rw [if_neg usedUp, Option.bind_some, after_timed running rfl]
          -- What the first pause left is used up by the second if and only if both together use up all.
          have together : left.nanoseconds - first.nanoseconds ≤ second.nanoseconds ↔
              left.nanoseconds ≤ first.nanoseconds + second.nanoseconds := by omega
          simp only [together, Nat.sub_sub]
          rfl

theorem after_no_time (hasTime : active.HasTime) : active.after ⟨0⟩ = some active := by
  by_cases paused : active.isPaused = true
  · exact after_paused paused _
  · cases remaining : active.remaining with
    | none => exact after_untimed remaining _
    | some left =>
        rw [after_timed paused remaining, if_neg (Nat.not_le.mpr (hasTime left remaining)), Nat.sub_zero, ← remaining]

theorem fresh_has_time (id : ToastId) (toast : Toast) : (fresh id toast).HasTime := by
  intro left remaining
  by_cases persistent : toast.isPersistent = true
  · rw [fresh, if_pos persistent] at remaining
    cases remaining
  · rw [fresh, if_neg persistent] at remaining
    cases remaining
    exact toast.limit_positive fun none => persistent (toast.persistent_iff.mpr none)

theorem after_has_time (hasTime : active.HasTime) {elapsed : Duration} (kept : active.after elapsed = some next) :
    next.HasTime := by
  by_cases paused : active.isPaused = true
  · rw [after_paused paused] at kept
    cases kept
    exact hasTime
  · cases remaining : active.remaining with
    | none =>
        rw [after_untimed remaining] at kept
        cases kept
        exact hasTime
    | some left =>
        rw [after_timed paused remaining] at kept
        split at kept
        · cases kept
        next more =>
          cases kept
          intro rest remains
          cases remains
          exact Nat.sub_pos_of_lt (Nat.not_le.mp more)

theorem act_has_time (hasTime : active.HasTime) {action : QueueAction} (kept : active.act action = some next) :
    next.HasTime := by
  cases action with
  | push toast =>
      cases kept
      exact hasTime
  | dismiss id =>
      simp only [act] at kept
      split at kept
      · cases kept
      · cases kept
        exact hasTime
  | dismissAll => cases kept
  | focus id =>
      cases kept
      split <;> exact hasTime
  | blur id =>
      cases kept
      split <;> exact hasTime
  | advance elapsed => exact after_has_time hasTime kept

end ActiveToast

namespace ToastQueue

variable {queue : ToastQueue}

structure IsTimely (queue : ToastQueue) : Prop where
  numbered : queue.Numbered
  hasTime : ∀ active ∈ queue.active, active.HasTime

theorem empty_timely : empty.IsTimely := ⟨empty_numbered, fun _ found => nomatch found⟩

theorem IsTimely.act (timely : queue.IsTimely) (action : QueueAction) : (queue.act action).1.IsTimely where
  numbered := act_numbered queue action timely.numbered
  hasTime := by
    intro active found
    rw [act_active queue action timely.numbered] at found
    cases List.mem_append.mp found with
    | inl old =>
        obtain ⟨before, present, kept⟩ := List.mem_filterMap.mp old
        exact ActiveToast.act_has_time (timely.hasTime before present) kept
    | inr new =>
        cases action with
        | push toast =>
            rw [List.mem_singleton.mp new]
            exact ActiveToast.fresh_has_time _ toast
        | _ => exact nomatch new

theorem IsTimely.run (timely : queue.IsTimely) (actions : List QueueAction) : (queue.run actions).IsTimely := by
  induction actions generalizing queue with
  | nil => exact timely
  | cons action actions ih => exact ih (timely.act action)

theorem advance_no_time (timely : queue.IsTimely) : queue.advance ⟨0⟩ = (queue, []) := by
  have stays : ∀ active ∈ queue.active, active.after ⟨0⟩ = some active :=
    fun active found => ActiveToast.after_no_time (timely.hasTime active found)
  have kept : queue.active.filterMap (·.after ⟨0⟩) = queue.active := by
    rw [List.filterMap_congr stays, List.filterMap_some]
  have gone : (queue.active.filter fun active => (active.after ⟨0⟩).isNone) = [] :=
    List.filter_eq_nil_iff.mpr fun active found => by simp [stays active found]
  rw [advance, kept, gone]
  rfl

theorem advance_advance (queue : ToastQueue) (first second : Duration) :
    ((queue.advance first).1.advance second).1 = (queue.advance (first + second)).1 := by
  change ToastQueue.mk _ ((queue.active.filterMap (·.after first)).filterMap (·.after second)) = ToastQueue.mk _ _
  rw [List.filterMap_filterMap]
  exact congrArg _ (List.filterMap_congr fun active _ => active.after_after first second)

theorem leaving_leaving (actives : List ActiveToast) (first second : Duration) :
    ((actives.filter fun active => (active.after first).isNone).map (·.toast) ++
      ((actives.filterMap (·.after first)).filter fun active => (active.after second).isNone).map (·.toast)).Perm
      ((actives.filter fun active => (active.after (first + second)).isNone).map (·.toast)) := by
  induction actives with
  | nil => exact .nil
  | cons active actives ih =>
      have whole := active.after_after first second
      cases between : active.after first with
      | none =>
          rw [between, Option.bind_none] at whole
          rw [List.filter_cons_of_pos (by simp [between]), List.filterMap_cons_none (f := fun active : ActiveToast => active.after first) between,
            List.filter_cons_of_pos (by simp [← whole])]
          exact ih.cons active.toast
      | some kept =>
          rw [between, Option.bind_some] at whole
          rw [List.filter_cons_of_neg (by simp [between]), List.filterMap_cons_some (f := fun active : ActiveToast => active.after first) between]
          cases gone : kept.after second with
          | none =>
              rw [List.filter_cons_of_pos (by simp [gone]), List.filter_cons_of_pos (by simp [← whole, gone]),
                List.map_cons, List.map_cons, (active.after_same kept first between).2]
              exact List.perm_middle.trans (ih.cons active.toast)
          | some last =>
              rw [List.filter_cons_of_neg (by simp [gone]), List.filter_cons_of_neg (by simp [← whole, gone])]
              exact ih

theorem expired_in_two (queue : ToastQueue) (first second : Duration) :
    ((queue.advance first).2 ++ ((queue.advance first).1.advance second).2).Perm (queue.advance (first + second)).2 :=
  leaving_leaving queue.active first second

end ToastQueue

def Duration.total (pauses : List Duration) : Duration := pauses.foldr (· + ·) ⟨0⟩

def QueueOutcome.ranOut : QueueOutcome → List Toast
  | .expired toasts => toasts
  | _ => []

namespace ToastQueue

theorem pauses_are_one (queue : ToastQueue) (timely : queue.IsTimely) (pauses : List Duration) :
    queue.run (pauses.map .advance) = (queue.advance (Duration.total pauses)).1 ∧
      ((queue.outcomes (pauses.map .advance)).flatMap (·.ranOut)).Perm (queue.advance (Duration.total pauses)).2 := by
  induction pauses generalizing queue with
  | nil =>
      change queue = (queue.advance ⟨0⟩).1 ∧ [].Perm (queue.advance ⟨0⟩).2
      rw [advance_no_time timely]
      exact ⟨rfl, .nil⟩
  | cons pause pauses ih =>
      obtain ⟨same, expired⟩ := ih (queue.advance pause).1 (timely.act (.advance pause))
      exact ⟨same.trans (queue.advance_advance pause _), (expired.append_left _).trans (queue.expired_in_two pause _)⟩

end ToastQueue

-- The queue is any that actions lead to. Only the sum of the pauses counts for it.
theorem pauses_add_up (actions : List QueueAction) :
    let queue := ToastQueue.empty.run actions
    (∀ first second,
      ((queue.advance first).1.advance second).1 = (queue.advance (first + second)).1 ∧
      ((queue.advance first).2 ++ ((queue.advance first).1.advance second).2).Perm (queue.advance (first + second)).2) ∧
    queue.advance ⟨0⟩ = (queue, []) ∧
    ∀ pauses : List Duration,
      queue.run (pauses.map .advance) = (queue.advance (Duration.total pauses)).1 ∧
      ((queue.outcomes (pauses.map .advance)).flatMap (·.ranOut)).Perm (queue.advance (Duration.total pauses)).2 := by
  intro queue
  have timely : queue.IsTimely := ToastQueue.empty_timely.run actions
  exact ⟨fun first second => ⟨queue.advance_advance first second, queue.expired_in_two first second⟩,
    ToastQueue.advance_no_time timely, queue.pauses_are_one timely⟩

end PageFeedback
