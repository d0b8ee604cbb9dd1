import Mathlib
import PageFeedback.Proofs.Toast.Life

set_option autoImplicit false

namespace PageFeedback

def QueueAction.named? : QueueAction → Option ToastId
  | .dismiss id => some id
  | .focus id => some id
  | .blur id => some id
  | _ => none

def QueueAction.elapsed : QueueAction → Nat
  | .advance elapsed => elapsed.nanoseconds
  | _ => 0

namespace ToastId

def isDismissedBy (id : ToastId) : QueueAction → Bool
  | .dismiss other => other == id
  | .dismissAll => true
  | _ => false

def isDismissedIn (id : ToastId) (actions : List QueueAction) : Bool := actions.any id.isDismissedBy

def focusBy? (id : ToastId) : QueueAction → Option Bool
  | .focus other => if other = id then some true else none
  | .blur other => if other = id then some false else none
  | _ => none

-- Whether the latest change of a toast's focus gave it the focus.
def isFocusedAfter (id : ToastId) (actions : List QueueAction) : Bool :=
  (actions.filterMap id.focusBy?).getLast?.getD false

def timeBy (id : ToastId) (stopOnFocus : Bool) (before : List QueueAction) : QueueAction → Nat
  | .advance elapsed => if id.isFocusedAfter before && stopOnFocus then 0 else elapsed.nanoseconds
  | _ => 0

def timeIn (id : ToastId) (stopOnFocus : Bool) (actions : List QueueAction) : Nat :=
  (actions.zipIdx.map fun entry => id.timeBy stopOnFocus (actions.take entry.2) entry.1).sum

theorem is_dismissed_in_snoc (id : ToastId) (actions : List QueueAction) (action : QueueAction) :
    id.isDismissedIn (actions ++ [action]) = (id.isDismissedIn actions || id.isDismissedBy action) := by
  simp [isDismissedIn]

theorem is_focused_after_snoc (id : ToastId) (actions : List QueueAction) (action : QueueAction) :
    id.isFocusedAfter (actions ++ [action]) = (id.focusBy? action).getD (id.isFocusedAfter actions) := by
  unfold isFocusedAfter
  cases change : id.focusBy? action <;> simp [change]

theorem time_in_snoc (id : ToastId) (stopOnFocus : Bool) (actions : List QueueAction) (action : QueueAction) :
    id.timeIn stopOnFocus (actions ++ [action]) =
      id.timeIn stopOnFocus actions + id.timeBy stopOnFocus actions action := by
  -- An action only looks back, so what counts for the earlier ones is what counted before.
  have earlier : ∀ entry ∈ actions.zipIdx,
      id.timeBy stopOnFocus ((actions ++ [action]).take entry.2) entry.1 =
        id.timeBy stopOnFocus (actions.take entry.2) entry.1 := by
    intro entry found
    have inside : entry.2 < actions.length := by
      have bound := (List.mem_zipIdx found).2.1
      omega
    rw [List.take_append_of_le_length (Nat.le_of_lt inside)]
  unfold timeIn
  rw [List.zipIdx_append, List.map_append, List.sum_append, List.map_congr_left earlier]
  simp

theorem focus_by_true {id : ToastId} {action : QueueAction} (focused : id.focusBy? action = some true) :
    action = .focus id := by
  cases action with
  | focus other =>
      by_cases same : other = id
      · rw [same]
      · rw [focusBy?, if_neg same] at focused
        cases focused
  | blur other =>
      rw [focusBy?] at focused
      split at focused <;> cases focused
  | _ => cases focused

theorem not_focused_after (id : ToastId) (actions : List QueueAction) (unfocused : ∀ action ∈ actions, action ≠ .focus id) :
    id.isFocusedAfter actions = false := by
  induction actions using List.reverseRecOn with
  | nil => rfl
  | append_singleton actions action ih =>
      have before := ih fun action found => unfocused action (List.mem_append_left _ found)
      have last := unfocused action (List.mem_append_right _ List.mem_cons_self)
      rw [is_focused_after_snoc, before]
      cases change : id.focusBy? action with
      | none => rfl
      | some focused =>
          cases focused with
          | false => rfl
          | true => exact absurd (focus_by_true change) last

theorem time_in_unfocused (id : ToastId) (stopOnFocus : Bool) (actions : List QueueAction)
    (unfocused : ∀ action ∈ actions, action ≠ .focus id) :
    id.timeIn stopOnFocus actions = (actions.map (·.elapsed)).sum := by
  induction actions using List.reverseRecOn with
  | nil => rfl
  | append_singleton actions action ih =>
      have earlier : ∀ action ∈ actions, action ≠ .focus id :=
        fun action found => unfocused action (List.mem_append_left _ found)
      have never := id.not_focused_after actions earlier
      have passed : id.timeBy stopOnFocus actions action = action.elapsed := by
        cases action <;> simp [timeBy, QueueAction.elapsed, never]
      rw [time_in_snoc, ih earlier, passed, List.map_append, List.sum_append, List.map_singleton,
        List.sum_singleton]

end ToastId

def Toast.limit (toast : Toast) : Nat := (Duration.ofMilliseconds toast.durationMs.toNat).nanoseconds

def Toast.IsSpent (toast : Toast) (id : ToastId) (actions : List QueueAction) : Prop :=
  toast.durationMs ≠ 0 ∧ toast.limit ≤ id.timeIn toast.stopOnFocus actions

instance (toast : Toast) (id : ToastId) (actions : List QueueAction) : Decidable (toast.IsSpent id actions) :=
  inferInstanceAs (Decidable (_ ∧ _))

theorem Toast.spent_snoc (toast : Toast) (id : ToastId) (actions : List QueueAction) (action : QueueAction)
    (spent : toast.IsSpent id actions) : toast.IsSpent id (actions ++ [action]) := by
  refine ⟨spent.1, Nat.le_trans spent.2 ?_⟩
  rw [ToastId.time_in_snoc]
  exact Nat.le_add_right _ _

theorem Toast.limit_positive (toast : Toast) (limited : toast.durationMs ≠ 0) : 0 < toast.limit := by
  have positive : 0 < toast.durationMs.toNat :=
    Nat.pos_of_ne_zero fun none => limited (UInt64.toNat_inj.mp none)
  exact Nat.mul_pos positive (by decide)

theorem Toast.unspent_at_first (toast : Toast) (id : ToastId) : ¬ toast.IsSpent id [] :=
  fun spent => Nat.not_le.mpr (toast.limit_positive spent.1) spent.2

theorem Toast.persistent_iff (toast : Toast) : toast.isPersistent = true ↔ toast.durationMs = 0 := beq_iff_eq

namespace ActiveToast

def aged (id : ToastId) (toast : Toast) (actions : List QueueAction) : ActiveToast where
  id
  toast
  remaining :=
    if toast.isPersistent then none
    else some ⟨toast.limit - id.timeIn toast.stopOnFocus actions⟩
  focused := id.isFocusedAfter actions

theorem aged_nil (id : ToastId) (toast : Toast) : aged id toast [] = fresh id toast := rfl

theorem aged_quiet (id : ToastId) (toast : Toast) (actions : List QueueAction) (action : QueueAction)
    (noFocus : id.focusBy? action = none) (noTime : id.timeBy toast.stopOnFocus actions action = 0) :
    aged id toast (actions ++ [action]) = aged id toast actions := by
  simp [aged, ToastId.is_focused_after_snoc, ToastId.time_in_snoc, noFocus, noTime]

theorem aged_focus (id : ToastId) (toast : Toast) (actions : List QueueAction) (action : QueueAction)
    (focused : Bool) (change : id.focusBy? action = some focused)
    (noTime : id.timeBy toast.stopOnFocus actions action = 0) :
    aged id toast (actions ++ [action]) = { aged id toast actions with focused } := by
  simp [aged, ToastId.is_focused_after_snoc, ToastId.time_in_snoc, change, noTime]

theorem aged_after (id : ToastId) (toast : Toast) (actions : List QueueAction) (elapsed : Duration)
    (unspent : ¬ toast.IsSpent id actions) :
    (aged id toast actions).after elapsed =
      if toast.IsSpent id (actions ++ [.advance elapsed]) then none
      else some (aged id toast (actions ++ [.advance elapsed])) := by
  have time := ToastId.time_in_snoc id toast.stopOnFocus actions (.advance elapsed)
  by_cases paused : (id.isFocusedAfter actions && toast.stopOnFocus) = true
  · have noTime : id.timeBy toast.stopOnFocus actions (.advance elapsed) = 0 := if_pos paused
    have still : ¬ toast.IsSpent id (actions ++ [.advance elapsed]) := by
      unfold Toast.IsSpent at unspent ⊢
      rwa [time, noTime, Nat.add_zero]
    rw [after, if_pos (show (aged id toast actions).isPaused = true from paused), if_neg still,
      aged_quiet id toast actions _ rfl noTime]
  · have passed : id.timeBy toast.stopOnFocus actions (.advance elapsed) = elapsed.nanoseconds := if_neg paused
    rw [after, if_neg (show ¬ (aged id toast actions).isPaused = true from paused)]
    by_cases persistent : toast.isPersistent = true
    · have never : ¬ toast.IsSpent id (actions ++ [.advance elapsed]) :=
        fun spent => spent.1 (toast.persistent_iff.mp persistent)
      rw [if_neg never]
      simp [aged, persistent, ToastId.is_focused_after_snoc, ToastId.focusBy?]
    · -- What is left is at most the pause if and only if the pause reaches the limit.
      have limited : toast.durationMs ≠ 0 := fun none => persistent (toast.persistent_iff.mpr none)
      have left : (aged id toast actions).remaining =
          some ⟨toast.limit - id.timeIn toast.stopOnFocus actions⟩ := if_neg persistent
      by_cases last : toast.limit ≤ id.timeIn toast.stopOnFocus actions + elapsed.nanoseconds
      · have spent : toast.IsSpent id (actions ++ [.advance elapsed]) :=
          ⟨limited, by rw [time, passed]; exact last⟩
        simp only [left, if_pos spent]
        exact if_pos (by omega)
      · have more : ¬ toast.IsSpent id (actions ++ [.advance elapsed]) := by
          rintro ⟨-, spent⟩
          rw [time, passed] at spent
          exact last spent
        simp only [left, if_neg more]
        rw [if_neg (by omega)]
        simp only [aged, if_neg persistent, time, passed, Nat.sub_sub, ToastId.is_focused_after_snoc,
          ToastId.focusBy?, Option.getD_none]

theorem aged_act (id : ToastId) (toast : Toast) (actions : List QueueAction) (action : QueueAction)
    (unspent : ¬ toast.IsSpent id actions) :
    (aged id toast actions).act action =
      if id.isDismissedBy action = true ∨ toast.IsSpent id (actions ++ [action]) then none
      else some (aged id toast (actions ++ [action])) := by
  -- Only a pause can use up the time of a toast.
  have quiet (noTime : id.timeBy toast.stopOnFocus actions action = 0) :
      ¬ toast.IsSpent id (actions ++ [action]) := by
    unfold Toast.IsSpent at unspent ⊢
    rwa [ToastId.time_in_snoc, noTime, Nat.add_zero]
  cases action with
  | push other =>
      rw [if_neg (by simp [ToastId.isDismissedBy, quiet rfl]), aged_quiet id toast actions _ rfl rfl]
      rfl
  | dismiss other =>
      by_cases same : id = other
      · rw [if_pos (.inl (by simp [ToastId.isDismissedBy, same]))]
        exact if_pos same
      · rw [if_neg (by simp [ToastId.isDismissedBy, quiet rfl, Ne.symm same]),
          aged_quiet id toast actions _ rfl rfl]
        exact if_neg same
  | dismissAll =>
      rw [if_pos (.inl rfl)]
      rfl
  | focus other =>
      rw [if_neg (by simp [ToastId.isDismissedBy, quiet rfl])]
      by_cases same : id = other
      · rw [aged_focus id toast actions (.focus other) true (if_pos same.symm) rfl]
        exact congrArg some (if_pos same)
      · rw [aged_quiet id toast actions (.focus other) (if_neg (Ne.symm same)) rfl]
        exact congrArg some (if_neg same)
  | blur other =>
      rw [if_neg (by simp [ToastId.isDismissedBy, quiet rfl])]
      by_cases same : id = other
      · rw [aged_focus id toast actions (.blur other) false (if_pos same.symm) rfl]
        exact congrArg some (if_pos same)
      · rw [aged_quiet id toast actions (.blur other) (if_neg (Ne.symm same)) rfl]
        exact congrArg some (if_neg same)
  | advance elapsed =>
      rw [act, aged_after id toast actions elapsed unspent]
      simp [ToastId.isDismissedBy]

theorem fresh_run (id : ToastId) (toast : Toast) (actions : List QueueAction) :
    (fresh id toast).run actions =
      if id.isDismissedIn actions = true ∨ toast.IsSpent id actions then none
      else some (aged id toast actions) := by
  induction actions using List.reverseRecOn with
  | nil =>
      rw [if_neg (by simp [ToastId.isDismissedIn, toast.unspent_at_first id]), aged_nil]
      rfl
  | append_singleton actions action ih =>
      rw [run_append, ih, ToastId.is_dismissed_in_snoc]
      by_cases gone : id.isDismissedIn actions = true ∨ toast.IsSpent id actions
      · -- What is gone stays gone: a dismissal is remembered, and time only grows.
        rw [if_pos gone, if_pos]
        · rfl
        · refine gone.imp (fun dismissed => ?_) (toast.spent_snoc id actions action)
          rw [dismissed, Bool.true_or]
      · obtain ⟨present, unspent⟩ := not_or.mp gone
        rw [if_neg gone, Option.bind_some, run_singleton, aged_act id toast actions action unspent]
        simp [present]

theorem act_unnamed (active : ActiveToast) (action : QueueAction) (other : ToastId)
    (named : action.named? = some other) (different : other ≠ active.id) : active.act action = some active := by
  cases action with
  | dismiss id =>
      cases named
      exact if_neg (Ne.symm different)
  | focus id =>
      cases named
      exact congrArg some (if_neg (Ne.symm different))
  | blur id =>
      cases named
      exact congrArg some (if_neg (Ne.symm different))
  | _ => cases named

end ActiveToast

namespace ToastQueue

theorem on_screen_iff (before after : List QueueAction) (toast : Toast) (last : ActiveToast) :
    (last ∈ (empty.run (before ++ .push toast :: after)).active ∧ last.id = ⟨pushes before + 1⟩) ↔
      ToastId.isDismissedIn ⟨pushes before + 1⟩ after = false ∧ ¬ toast.IsSpent ⟨pushes before + 1⟩ after ∧
        last = ActiveToast.aged ⟨pushes before + 1⟩ toast after := by
  rw [mem_run_push_iff, ActiveToast.fresh_run]
  split
  next gone =>
    refine ⟨(nomatch ·), fun ⟨present, unspent, _⟩ => ?_⟩
    rw [present] at gone
    exact gone.elim (fun dismissed => nomatch dismissed) (fun spent => absurd spent unspent)
  next stays =>
    obtain ⟨present, unspent⟩ := not_or.mp stays
    rw [Option.some.injEq, eq_comm (b := last)]
    exact ⟨fun same => ⟨Bool.eq_false_iff.mpr present, unspent, same⟩, fun stay => stay.2.2⟩

theorem leaving_iff (before after : List QueueAction) (toast : Toast) (elapsed : Duration) :
    let id : ToastId := ⟨pushes before + 1⟩
    (∃ active ∈ (empty.run (before ++ .push toast :: after)).leaving elapsed, active.id = id) ↔
      id.isDismissedIn after = false ∧ ¬ toast.IsSpent id after ∧ toast.IsSpent id (after ++ [.advance elapsed]) := by
  intro id
  constructor
  · rintro ⟨active, found, same⟩
    obtain ⟨inQueue, gone⟩ := List.mem_filter.mp found
    obtain ⟨present, unspent, rfl⟩ := (on_screen_iff before after toast active).mp ⟨inQueue, same⟩
    refine ⟨present, unspent, Decidable.byContradiction fun more => ?_⟩
    rw [ActiveToast.aged_after id toast after elapsed unspent, if_neg more] at gone
    cases gone
  · rintro ⟨present, unspent, spent⟩
    have shown := (on_screen_iff before after toast _).mpr ⟨present, unspent, rfl⟩
    refine ⟨_, List.mem_filter.mpr ⟨shown.1, ?_⟩, shown.2⟩
    rw [ActiveToast.aged_after id toast after elapsed unspent, if_pos spent]
    rfl

theorem mem_run_skip_iff (before after later : List QueueAction) (toast : Toast) (action : QueueAction)
    (other : ToastId) (active : ActiveToast) (named : action.named? = some other)
    (apart : other ≠ ⟨pushes before + 1⟩ ∨
      ∀ active ∈ (empty.run (before ++ .push toast :: after)).active, active.id ≠ other)
    (same : active.id = ⟨pushes before + 1⟩) :
    active ∈ (empty.run (before ++ .push toast :: (after ++ action :: later))).active ↔
      active ∈ (empty.run (before ++ .push toast :: (after ++ later))).active := by
  -- By its own run the toast is gone already, or it does not have the number that is named.
  have passed : (ActiveToast.fresh ⟨pushes before + 1⟩ toast).run (after ++ action :: later) =
      (ActiveToast.fresh ⟨pushes before + 1⟩ toast).run (after ++ later) := by
    rw [ActiveToast.run_append, ActiveToast.run_append]
    cases middle : (ActiveToast.fresh ⟨pushes before + 1⟩ toast).run after with
    | none => rfl
    | some current =>
        obtain ⟨shown, number⟩ := (mem_run_push_iff before after toast current).mpr middle
        have different : other ≠ current.id := by
          cases apart with
          | inl elsewhere => rwa [number]
          | inr missing => exact Ne.symm (missing current shown)
        rw [Option.bind_some, Option.bind_some, ActiveToast.run_cons,
          ActiveToast.act_unnamed current action other named different, Option.bind_some]
  have first := mem_run_push_iff before (after ++ action :: later) toast active
  have second := mem_run_push_iff before (after ++ later) toast active
  rw [passed, ← second] at first
  exact ⟨fun found => (first.mp ⟨found, same⟩).1, fun found => (first.mpr ⟨found, same⟩).1⟩

end ToastQueue

-- A toast is followed from its push: `before` is what was done up to then, and `after` what was
-- done since. Its number is one more than the pushes before its own.
theorem toast_timing (before after : List QueueAction) (toast : Toast) :
    let id : ToastId := ⟨pushes before + 1⟩
    let queue (actions : List QueueAction) := ToastQueue.empty.run (before ++ .push toast :: actions)
    let limit := (Duration.ofMilliseconds toast.durationMs.toNat).nanoseconds
    let time := id.timeIn toast.stopOnFocus
    ((ToastQueue.empty.run before).act (.push toast)).2 = .shown id ∧
    ((∃ active ∈ (queue after).active, active.id = id) ↔
      id.isDismissedIn after = false ∧ (toast.durationMs = 0 ∨ time after < limit)) ∧
    (∀ active ∈ (queue after).active, active.id = id →
      active.toast = toast ∧ active.focused = id.isFocusedAfter after ∧
      (active.remaining = none ↔ toast.durationMs = 0) ∧
      (toast.durationMs ≠ 0 → active.remaining = some ⟨limit - time after⟩ ∧ 0 < limit - time after)) ∧
    (∀ elapsed, ∃ expired : List ActiveToast,
      ((queue after).act (.advance elapsed)).2 = .expired (expired.map (·.toast)) ∧
      expired.Sublist (queue after).active ∧
      (∀ active ∈ (queue after).active, active ∈ expired ↔
        ∀ kept ∈ (queue (after ++ [.advance elapsed])).active, kept.id ≠ active.id) ∧
      ((∃ active ∈ expired, active.id = id) ↔
        id.isDismissedIn after = false ∧ toast.durationMs ≠ 0 ∧
          time after < limit ∧ limit ≤ time (after ++ [.advance elapsed]))) ∧
    ∀ action other, action.named? = some other →
      (other ≠ id ∨ ∀ active ∈ (queue after).active, active.id ≠ other) →
      ∀ later active, active.id = id →
        (active ∈ (queue (after ++ action :: later)).active ↔ active ∈ (queue (after ++ later)).active) := by
  intro id queue limit time
  have given : (ToastQueue.empty.run before).lastId = pushes before := by
    rw [ToastQueue.run_last_id]
    exact Nat.zero_add _
  have onScreen (active : ActiveToast) : active ∈ (queue after).active ∧ active.id = id ↔
      id.isDismissedIn after = false ∧ ¬ toast.IsSpent id after ∧ active = ActiveToast.aged id toast after :=
    ToastQueue.on_screen_iff before after toast active
  have unspent (actions : List QueueAction) :
      ¬ toast.IsSpent id actions ↔ toast.durationMs = 0 ∨ time actions < limit := by
    unfold Toast.IsSpent
    rw [Decidable.not_and_iff_not_or_not, Decidable.not_not, Nat.not_le]
    rfl
  refine ⟨?_, ?_, ?_, ?_, ?_⟩
  · change QueueOutcome.shown ⟨(ToastQueue.empty.run before).lastId + 1⟩ = _
    rw [given]
  · rw [← unspent]
    constructor
    · rintro ⟨active, found, same⟩
      obtain ⟨present, stays, -⟩ := (onScreen active).mp ⟨found, same⟩
      exact ⟨present, stays⟩
    · rintro ⟨present, stays⟩
      exact ⟨_, (onScreen _).mpr ⟨present, stays, rfl⟩⟩
  · intro active found same
    obtain ⟨-, stays, rfl⟩ := (onScreen active).mp ⟨found, same⟩
    refine ⟨rfl, rfl, ?_, fun limited => ⟨?_, ?_⟩⟩
    · simp [ActiveToast.aged, ← toast.persistent_iff]
    · exact if_neg fun persistent => limited (toast.persistent_iff.mp persistent)
    · exact Nat.sub_pos_of_lt (((unspent after).mp stays).resolve_left limited)
  · -- The toasts that a pause takes off are those that it returns, and among them is this one
    -- if the pause is the first to reach its limit.
    intro elapsed
    have numbered := ToastQueue.run_numbered ToastQueue.empty (before ++ .push toast :: after)
      ToastQueue.empty_numbered
    have next : queue (after ++ [.advance elapsed]) = ((queue after).act (.advance elapsed)).1 := by
      change ToastQueue.empty.run (before ++ .push toast :: (after ++ [.advance elapsed])) = _
      rw [← List.cons_append, ← List.append_assoc, ToastQueue.run_append]
      rfl
    refine ⟨(queue after).leaving elapsed, rfl, List.filter_sublist, fun active found => ?_, ?_⟩
    · rw [next]
      exact (queue after).mem_leaving_iff elapsed active numbered found
    · refine (ToastQueue.leaving_iff before after toast elapsed).trans ?_
      rw [unspent]
      constructor
      · rintro ⟨present, stays, limited, spent⟩
        exact ⟨present, limited, stays.resolve_left limited, spent⟩
      · rintro ⟨present, limited, stays, spent⟩
        exact ⟨present, .inr stays, limited, spent⟩
  · intro action other named apart later active same
    exact ToastQueue.mem_run_skip_iff before after later toast action other active named apart same

end PageFeedback
