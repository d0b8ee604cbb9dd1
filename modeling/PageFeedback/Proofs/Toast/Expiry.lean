import PageFeedback.Proofs.Toast.Custody
import PageFeedback.Proofs.Toast.Timing

set_option autoImplicit false

namespace PageFeedback

namespace Toast

variable (toast : Toast) (duration : Duration)

theorem duration_written :
    (toast.withDuration duration).durationMs.toNat = min (duration.nanoseconds / 1000000) (2 ^ 64 - 1) :=
  UInt64.toNat_ofNat_of_lt' (Nat.lt_of_le_of_lt (Nat.min_le_right _ _) (by decide))

theorem persistent_with_duration_iff :
    (toast.withDuration duration).isPersistent = true ↔
      duration.nanoseconds < (Duration.ofMilliseconds 1).nanoseconds := by
  have written := toast.duration_written duration
  change _ ↔ duration.nanoseconds < 1000000
  rw [persistent_iff, ← UInt64.toNat_inj, written]
  change min _ _ = 0 ↔ _
  omega

theorem limit_with_duration_le : (toast.withDuration duration).limit ≤ duration.nanoseconds := by
  change (toast.withDuration duration).durationMs.toNat * 1000000 ≤ _
  rw [duration_written]
  omega

theorem first_spent {toast : Toast} {id : ToastId} {actions : List QueueAction} (spent : toast.IsSpent id actions) :
    ∃ earlier pause later, actions = earlier ++ .advance pause :: later ∧ ¬ toast.IsSpent id earlier ∧
      toast.IsSpent id (earlier ++ [.advance pause]) := by
  induction actions using List.reverseRecOn with
  | nil => exact absurd spent (toast.unspent_at_first id)
  | append_singleton actions action ih =>
      by_cases already : toast.IsSpent id actions
      · obtain ⟨earlier, pause, later, rfl, unspent, last⟩ := ih already
        exact ⟨earlier, pause, later ++ [action], by simp, unspent, last⟩
      · -- The last action made time pass, so it is a pause.
        cases action with
        | advance pause => exact ⟨actions, pause, [], rfl, already, spent⟩
        | _ =>
            refine absurd ⟨spent.1, ?_⟩ already
            have total := spent.2
            rwa [ToastId.time_in_snoc] at total

end Toast

namespace ToastQueue

theorem is_dismissed_earlier {id : ToastId} {earlier later : List QueueAction}
    (undismissed : id.isDismissedIn (earlier ++ later) = false) : id.isDismissedIn earlier = false := by
  rw [ToastId.isDismissedIn, List.any_append] at undismissed
  exact (Bool.or_eq_false_iff.mp undismissed).1

theorem runs_out (before after : List QueueAction) (toast : Toast)
    (undismissed : ToastId.isDismissedIn ⟨pushes before + 1⟩ after = false)
    (spent : toast.IsSpent ⟨pushes before + 1⟩ after) :
    ∃ earlier pause later, after = earlier ++ .advance pause :: later ∧
      ∃ active ∈ (empty.run (before ++ .push toast :: earlier)).removed (.advance pause),
        active.id = ⟨pushes before + 1⟩ ∧ active.toast = toast := by
  obtain ⟨earlier, pause, later, rfl, unspent, last⟩ := Toast.first_spent spent
  obtain ⟨active, found, same⟩ :=
    (leaving_iff before earlier toast pause).mpr ⟨is_dismissed_earlier undismissed, unspent, last⟩
  have shown := (on_screen_iff before earlier toast active).mp ⟨(List.mem_filter.mp found).1, same⟩
  refine ⟨earlier, pause, later, rfl, active, ?_, same, ?_⟩
  · rw [removed_eq (run_holds _).numbered]
    exact found
  · rw [shown.2.2]
    rfl

end ToastQueue

theorem display_time_ends (before : List QueueAction) (toast : Toast) (duration : Duration) :
    let id : ToastId := ⟨pushes before + 1⟩
    let timed := toast.withDuration duration
    let queue (actions : List QueueAction) := ToastQueue.empty.run (before ++ .push timed :: actions)
    (timed.isPersistent = true ↔ duration.nanoseconds < (Duration.ofMilliseconds 1).nanoseconds) ∧
    ∀ after, id.isDismissedIn after = false →
      (timed.isPersistent = true → (queue after).Shows id timed) ∧
      (timed.isPersistent = false → (∀ action ∈ after, action ≠ .focus id) →
        duration.nanoseconds ≤ (after.map (·.elapsed)).sum →
        ∃ earlier pause later, after = earlier ++ .advance pause :: later ∧
          let expired := (queue earlier).removed (.advance pause)
          ((queue earlier).act (.advance pause)).2 = .expired (expired.map (·.toast)) ∧
          ∃ active ∈ expired, active.id = id ∧ active.toast = timed) := by
  intro id timed queue
  refine ⟨toast.persistent_with_duration_iff duration, fun after undismissed => ⟨fun persistent => ?_, ?_⟩⟩
  · have unspent : ¬ timed.IsSpent id after := fun spent => spent.1 (timed.persistent_iff.mp persistent)
    obtain ⟨found, same⟩ := (ToastQueue.on_screen_iff before after timed _).mpr ⟨undismissed, unspent, rfl⟩
    exact ⟨_, found, same, rfl⟩
  · intro limited unfocused passed
    have spent : timed.IsSpent id after := by
      refine ⟨fun none => ?_, ?_⟩
      · rw [timed.persistent_iff.mpr none] at limited
        cases limited
      · rw [ToastId.time_in_unfocused id _ _ unfocused]
        exact Nat.le_trans (toast.limit_with_duration_le duration) passed
    obtain ⟨earlier, pause, later, parts, gone⟩ := ToastQueue.runs_out before after timed undismissed spent
    refine ⟨earlier, pause, later, parts, ?_, gone⟩
    rw [ToastQueue.removed_eq (ToastQueue.run_holds _).numbered]
    rfl

theorem display_time_ends_beside_other :
    let actions : List QueueAction := [.push (.warning "beside" .default)]
    let timed := (Toast.warning "brief" .default).withDuration ⟨2500000⟩
    let after : List QueueAction := [.advance ⟨1500000⟩, .focus ⟨1⟩, .dismiss ⟨1⟩, .advance ⟨1000000⟩]
    ToastId.isDismissedIn ⟨2⟩ after = false ∧ timed.isPersistent = false ∧ (∀ action ∈ after, action ≠ .focus ⟨2⟩) ∧
      2500000 ≤ (after.map (·.elapsed)).sum ∧
      ∃ earlier pause later, after = earlier ++ .advance pause :: later ∧
        let queue := ToastQueue.empty.run (actions ++ .push timed :: earlier)
        (queue.act (.advance pause)).2 = .expired ((queue.removed (.advance pause)).map (·.toast)) ∧
        ∃ active ∈ queue.removed (.advance pause), active.id = ⟨2⟩ ∧ active.toast = timed := by
  intro actions timed after
  have undismissed : ToastId.isDismissedIn ⟨2⟩ after = false := by decide
  have limited : timed.isPersistent = false := by decide +kernel
  have unfocused : ∀ action ∈ after, action ≠ .focus ⟨2⟩ := by decide
  have passed : 2500000 ≤ (after.map (·.elapsed)).sum := by decide
  obtain ⟨-, ends⟩ := display_time_ends actions (.warning "brief" .default) ⟨2500000⟩
  exact ⟨undismissed, limited, unfocused, passed, (ends after undismissed).2 limited unfocused passed⟩

-- Half a millisecond is a positive time, but it never ends.
theorem half_millisecond_never_ends :
    let toast := Toast.warning "fleeting" .default
    let half : Duration := ⟨500000⟩
    let timed := toast.withDuration half
    let shown := ToastQueue.empty.run [.push timed]
    0 < half.nanoseconds ∧ timed.isPersistent = true ∧
      shown.act (.advance (Duration.ofSeconds 3600)) = (shown, .expired []) ∧ shown.Shows ⟨1⟩ timed ∧
      ¬ ∀ duration : Duration, (toast.withDuration duration).isPersistent = true → duration.nanoseconds = 0 := by
  intro toast half timed shown
  have persistent : timed.isPersistent = true := by decide +kernel
  exact ⟨by decide, persistent, by decide +kernel, ⟨ActiveToast.fresh ⟨1⟩ timed, List.mem_singleton_self _, rfl, rfl⟩,
    fun only => absurd (only half persistent) (by decide)⟩

end PageFeedback
