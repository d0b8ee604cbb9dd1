import Mathlib.Data.List.Basic
import PageFeedback.Toast.Queue

set_option autoImplicit false

namespace PageFeedback

namespace ActiveToast

def fresh (id : ToastId) (toast : Toast) : ActiveToast :=
  ⟨id, toast, if toast.isPersistent then none else some (Duration.ofMilliseconds toast.durationMs.toNat), false⟩

def act (active : ActiveToast) : QueueAction → Option ActiveToast
  | .push _ => some active
  | .dismiss id => if active.id = id then none else some active
  | .dismissAll => none
  | .focus id => some (if active.id = id then { active with focused := true } else active)
  | .blur id => some (if active.id = id then { active with focused := false } else active)
  | .advance elapsed => active.after elapsed

def run (active : ActiveToast) (actions : List QueueAction) : Option ActiveToast :=
  actions.foldlM act active

theorem after_same (active next : ActiveToast) (elapsed : Duration) (kept : active.after elapsed = some next) :
    next.id = active.id ∧ next.toast = active.toast := by
  unfold after at kept
  split at kept
  · cases kept; exact ⟨rfl, rfl⟩
  · split at kept
    · cases kept; exact ⟨rfl, rfl⟩
    · split at kept
      · cases kept
      · cases kept; exact ⟨rfl, rfl⟩

theorem act_same (active next : ActiveToast) (action : QueueAction) (kept : active.act action = some next) :
    next.id = active.id ∧ next.toast = active.toast := by
  cases action with
  | push toast => cases kept; exact ⟨rfl, rfl⟩
  | dismiss id =>
      simp only [act] at kept
      split at kept
      · cases kept
      · cases kept; exact ⟨rfl, rfl⟩
  | dismissAll => cases kept
  | focus id =>
      cases kept
      split <;> exact ⟨rfl, rfl⟩
  | blur id =>
      cases kept
      split <;> exact ⟨rfl, rfl⟩
  | advance elapsed => exact after_same active next elapsed kept

theorem act_id (active next : ActiveToast) (action : QueueAction) (kept : active.act action = some next) :
    next.id = active.id := (act_same active next action kept).1

theorem run_cons (active : ActiveToast) (action : QueueAction) (actions : List QueueAction) :
    active.run (action :: actions) = (active.act action).bind (·.run actions) := rfl

theorem run_singleton (active : ActiveToast) (action : QueueAction) : active.run [action] = active.act action := by
  rw [run_cons]
  exact Option.bind_fun_some _

theorem run_append (active : ActiveToast) (first second : List QueueAction) :
    active.run (first ++ second) = (active.run first).bind (·.run second) := by
  unfold run
  rw [List.foldlM_append]
  rfl

theorem run_id (active last : ActiveToast) (actions : List QueueAction) (kept : active.run actions = some last) :
    last.id = active.id := by
  induction actions generalizing active with
  | nil => cases kept; rfl
  | cons action actions ih =>
      rw [run_cons] at kept
      obtain ⟨next, first, rest⟩ := Option.bind_eq_some_iff.mp kept
      exact (ih next rest).trans (act_id active next action first)

end ActiveToast

def QueueAction.shown? (lastId : Nat) : QueueAction → Option ActiveToast
  | .push toast => some (ActiveToast.fresh ⟨lastId + 1⟩ toast)
  | _ => none

def pushes (actions : List QueueAction) : Nat :=
  actions.countP fun
    | .push _ => true
    | _ => false

namespace ToastQueue

structure Numbered (queue : ToastQueue) : Prop where
  rising : queue.active.Pairwise fun a b => a.id.number < b.id.number
  given : ∀ active ∈ queue.active, active.id.number ≤ queue.lastId

theorem empty_numbered : empty.Numbered := ⟨List.Pairwise.nil, fun _ found => nomatch found⟩

theorem Numbered.eq_of_id {queue : ToastQueue} (numbered : queue.Numbered) (a b : ActiveToast)
    (hasA : a ∈ queue.active) (hasB : b ∈ queue.active) (same : a.id = b.id) : a = b := by
  have apart {a b : ActiveToast} (less : a.id.number < b.id.number) : a.id ≠ b.id := by
    intro equal
    rw [equal] at less
    exact Nat.lt_irrefl _ less
  exact List.Pairwise.forall_of_forall_of_flip (R := fun a b => a.id = b.id → a = b) (fun _ _ _ => rfl)
    (numbered.rising.imp fun less equal => absurd equal (apart less))
    (numbered.rising.imp fun less equal => absurd equal.symm (apart less)) hasA hasB same

theorem erase_number (id : ToastId) (actives : List ActiveToast)
    (rising : actives.Pairwise fun a b => a.id.number < b.id.number) :
    actives.eraseP (fun active => active.id == id) = actives.filterMap (·.act (.dismiss id)) := by
  induction actives with
  | nil => rfl
  | cons active rest ih =>
      have above := (List.pairwise_cons.mp rising).1
      by_cases same : active.id = id
      · have gone : active.act (.dismiss id) = none := if_pos same
        -- No later toast has the number of the first, so none of them goes with it.
        have kept : ∀ later ∈ rest, later.act (.dismiss id) = some later := by
          intro later found
          have less := above later found
          refine if_neg fun also => ?_
          rw [same, also] at less
          exact Nat.lt_irrefl _ less
        rw [List.eraseP_cons_of_pos (by simpa using same), List.filterMap_cons]
        simp only [gone]
        rw [List.filterMap_congr kept, List.filterMap_some]
      · have stays : active.act (.dismiss id) = some active := if_neg same
        rw [List.eraseP_cons_of_neg (by simpa using same), List.filterMap_cons]
        simp only [stays]
        rw [ih (List.pairwise_cons.mp rising).2]

theorem dismiss_active (queue : ToastQueue) (id : ToastId) (numbered : queue.Numbered) :
    (queue.dismiss id).1.active = queue.active.filterMap (·.act (.dismiss id)) := by
  rw [← erase_number id queue.active numbered.rising]
  unfold dismiss
  split
  · rfl
  next missing =>
    refine (List.eraseP_of_forall_not fun active found => ?_).symm
    exact List.find?_eq_none.mp missing active found

theorem act_active (queue : ToastQueue) (action : QueueAction) (numbered : queue.Numbered) :
    (queue.act action).1.active =
      queue.active.filterMap (·.act action) ++ (action.shown? queue.lastId).toList := by
  cases action with
  | push toast =>
      change queue.active ++ [ActiveToast.fresh ⟨queue.lastId + 1⟩ toast] = queue.active.filterMap some ++ _
      rw [List.filterMap_some]
      rfl
  | dismiss id => exact (dismiss_active queue id numbered).trans (List.append_nil _).symm
  | dismissAll =>
      change [] = queue.active.filterMap (fun _ => none) ++ []
      simp
  | focus id =>
      change queue.active.map _ = queue.active.filterMap (some ∘ _) ++ []
      rw [List.append_nil, List.filterMap_eq_map]
  | blur id =>
      change queue.active.map _ = queue.active.filterMap (some ∘ _) ++ []
      rw [List.append_nil, List.filterMap_eq_map]
  | advance elapsed => exact (List.append_nil _).symm

theorem act_last_id (queue : ToastQueue) (action : QueueAction) :
    (queue.act action).1.lastId = queue.lastId + pushes [action] := by
  cases action with
  | dismiss id =>
      change (queue.dismiss id).1.lastId = queue.lastId
      unfold dismiss
      split <;> rfl
  | _ => rfl

theorem act_numbered (queue : ToastQueue) (action : QueueAction) (numbered : queue.Numbered) :
    (queue.act action).1.Numbered := by
  have old : ∀ active ∈ queue.active.filterMap (·.act action), active.id.number ≤ queue.lastId := by
    intro active found
    obtain ⟨before, present, kept⟩ := List.mem_filterMap.mp found
    rw [ActiveToast.act_id before active action kept]
    exact numbered.given before present
  have shown : ∀ active ∈ (action.shown? queue.lastId).toList, active.id.number = queue.lastId + 1 := by
    intro active found
    cases action with
    | push toast => rw [List.mem_singleton.mp found]; rfl
    | _ => exact nomatch found
  -- What was on screen keeps its numbers and its order, and the next number goes to what comes.
  constructor
  · rw [act_active queue action numbered]
    refine List.pairwise_append.mpr ⟨?_, ?_, fun a inOld b inNew => ?_⟩
    · refine numbered.rising.filterMap _ fun a b less c keptA d keptB => ?_
      rw [ActiveToast.act_id a c action keptA, ActiveToast.act_id b d action keptB]
      exact less
    · cases action.shown? queue.lastId with
      | none => exact List.Pairwise.nil
      | some active => exact List.pairwise_singleton _ _
    · have atMost := old a inOld
      have next := shown b inNew
      omega
  · intro active found
    rw [act_active queue action numbered] at found
    rw [act_last_id]
    cases List.mem_append.mp found with
    | inl inOld => exact Nat.le_add_right_of_le (old active inOld)
    | inr inNew =>
        cases action with
        | push toast => exact Nat.le_of_eq (shown active inNew)
        | _ => exact nomatch inNew

theorem run_append (queue : ToastQueue) (first second : List QueueAction) :
    queue.run (first ++ second) = (queue.run first).run second := List.foldl_append

theorem run_numbered (queue : ToastQueue) (actions : List QueueAction) (numbered : queue.Numbered) :
    (queue.run actions).Numbered := by
  induction actions generalizing queue with
  | nil => exact numbered
  | cons action actions ih => exact ih (queue.act action).1 (act_numbered queue action numbered)

theorem run_last_id (queue : ToastQueue) (actions : List QueueAction) :
    (queue.run actions).lastId = queue.lastId + pushes actions := by
  induction actions generalizing queue with
  | nil => rfl
  | cons action actions ih =>
      change ((queue.act action).1.run actions).lastId = _
      rw [ih, act_last_id, Nat.add_assoc]
      congr 1
      have together : pushes ([action] ++ actions) = pushes [action] + pushes actions := List.countP_append
      exact together.symm

def newcomers : Nat → List QueueAction → List ActiveToast
  | _, [] => []
  | lastId, action :: actions =>
      ((action.shown? lastId).bind (·.run actions)).toList ++ newcomers (lastId + pushes [action]) actions

theorem newcomers_above (lastId : Nat) (actions : List QueueAction) (active : ActiveToast)
    (found : active ∈ newcomers lastId actions) : lastId < active.id.number := by
  induction actions generalizing lastId with
  | nil => exact nomatch found
  | cons action actions ih =>
      cases List.mem_append.mp found with
      | inl first =>
          obtain ⟨shown, start, whole⟩ := Option.bind_eq_some_iff.mp (Option.mem_toList.mp first)
          rw [ActiveToast.run_id shown active actions whole]
          cases action with
          | push toast =>
              cases start
              exact Nat.lt_succ_self lastId
          | _ => cases start
      | inr later => exact Nat.lt_of_le_of_lt (Nat.le_add_right _ _) (ih _ later)

theorem run_active (queue : ToastQueue) (actions : List QueueAction) (numbered : queue.Numbered) :
    (queue.run actions).active = queue.active.filterMap (·.run actions) ++ newcomers queue.lastId actions := by
  induction actions generalizing queue with
  | nil =>
      change queue.active = queue.active.filterMap some ++ []
      rw [List.filterMap_some, List.append_nil]
  | cons action actions ih =>
      -- What the first action brings on screen runs through the actions after it.
      have first (shown : Option ActiveToast) :
          shown.toList.filterMap (·.run actions) = (shown.bind (·.run actions)).toList := by
        cases shown with
        | none => rfl
        | some active =>
            rw [Option.toList_some, List.filterMap_cons, Option.bind_some]
            cases active.run actions <;> rfl
      change ((queue.act action).1.run actions).active = _
      rw [ih (queue.act action).1 (act_numbered queue action numbered), act_active queue action numbered,
        act_last_id, List.filterMap_append, List.filterMap_filterMap, first, List.append_assoc]
      rfl

theorem run_push_active (before after : List QueueAction) (toast : Toast) :
    (empty.run (before ++ .push toast :: after)).active =
      (empty.run before).active.filterMap (·.run after) ++
        ((ActiveToast.fresh ⟨pushes before + 1⟩ toast).run after).toList ++ newcomers (pushes before + 1) after := by
  have numbered := run_numbered empty before empty_numbered
  have given : (empty.run before).lastId = pushes before := by
    rw [run_last_id]
    exact Nat.zero_add _
  rw [run_append, run_active _ _ numbered, given, newcomers, ← List.append_assoc]
  rfl

theorem mem_run_push_iff (before after : List QueueAction) (toast : Toast) (last : ActiveToast) :
    (last ∈ (empty.run (before ++ .push toast :: after)).active ∧ last.id = ⟨pushes before + 1⟩) ↔
      (ActiveToast.fresh ⟨pushes before + 1⟩ toast).run after = some last := by
  rw [run_push_active, List.mem_append, List.mem_append, Option.mem_toList]
  constructor
  · -- Toasts from before have lower numbers, and later ones have higher numbers.
    rintro ⟨(old | own) | new, same⟩
    · obtain ⟨active, present, whole⟩ := List.mem_filterMap.mp old
      have atMost := (run_numbered empty before empty_numbered).given active present
      rw [← ActiveToast.run_id active last after whole, same, run_last_id] at atMost
      exact absurd atMost (by simp [empty])
    · exact own
    · have above := newcomers_above _ after last new
      rw [same] at above
      exact absurd above (Nat.lt_irrefl _)
  · intro whole
    exact ⟨.inl (.inr whole), ActiveToast.run_id _ last after whole⟩

theorem stayed_of_old (queue : ToastQueue) (action : QueueAction) (kept : ActiveToast) (numbered : queue.Numbered)
    (found : kept ∈ (queue.act action).1.active) (old : kept.id.number ≤ queue.lastId) :
    ∃ before ∈ queue.active, before.act action = some kept := by
  rw [act_active queue action numbered] at found
  cases List.mem_append.mp found with
  | inl stayed => exact List.mem_filterMap.mp stayed
  | inr new =>
      cases action with
      | push toast =>
          rw [List.mem_singleton.mp new] at old
          exact absurd old (Nat.not_succ_le_self _)
      | _ => exact nomatch new

theorem act_none_iff (queue : ToastQueue) (action : QueueAction) (active : ActiveToast)
    (numbered : queue.Numbered) (present : active ∈ queue.active) :
    active.act action = none ↔ ∀ kept ∈ (queue.act action).1.active, kept.id ≠ active.id := by
  constructor
  · intro gone kept found same
    have old : kept.id.number ≤ queue.lastId := same ▸ numbered.given active present
    obtain ⟨before, hasBefore, stays⟩ := queue.stayed_of_old action kept numbered found old
    -- Numbers are not used twice, so a toast that stays under this number is this toast.
    have sameId := (ActiveToast.act_id before kept action stays).symm.trans same
    rw [numbered.eq_of_id before active hasBefore present sameId, gone] at stays
    cases stays
  · intro apart
    refine Option.eq_none_iff_forall_ne_some.mpr fun next stays => ?_
    have found : next ∈ (queue.act action).1.active := by
      rw [act_active queue action numbered]
      exact List.mem_append_left _ (List.mem_filterMap.mpr ⟨active, present, stays⟩)
    exact apart next found (ActiveToast.act_id active next action stays)

def leaving (queue : ToastQueue) (elapsed : Duration) : List ActiveToast :=
  queue.active.filter fun active => (active.after elapsed).isNone

theorem mem_leaving_iff (queue : ToastQueue) (elapsed : Duration) (active : ActiveToast)
    (numbered : queue.Numbered) (present : active ∈ queue.active) :
    active ∈ queue.leaving elapsed ↔
      ∀ kept ∈ (queue.act (.advance elapsed)).1.active, kept.id ≠ active.id := by
  rw [leaving, List.mem_filter, Option.isNone_iff_eq_none]
  exact (and_iff_right present).trans (queue.act_none_iff (.advance elapsed) active numbered present)

end ToastQueue

end PageFeedback
