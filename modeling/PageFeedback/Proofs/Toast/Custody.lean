import Mathlib.Data.List.Induction
import PageFeedback.Proofs.Toast.Life

set_option autoImplicit false

namespace PageFeedback

def QueueAction.pushed? : QueueAction → Option Toast
  | .push toast => some toast
  | _ => none

def pushed (actions : List QueueAction) : List Toast := actions.filterMap (·.pushed?)

def QueueOutcome.given? : QueueOutcome → Option Nat
  | .shown id => some id.number
  | _ => none

theorem filter_map_view {α β : Type} (change : α → Option α) (view : α → β)
    (keeps : ∀ before after, change before = some after → view after = view before) (items : List α) :
    (items.filterMap change).map view = (items.filter fun item => (change item).isSome).map view := by
  induction items with
  | nil => rfl
  | cons item items ih =>
      cases result : change item with
      | none => rw [List.filterMap_cons_none result, List.filter_cons_of_neg (by simp [result]), ih]
      | some after =>
          rw [List.filterMap_cons_some result, List.filter_cons_of_pos (by simp [result]), List.map_cons, List.map_cons,
            keeps item after result, ih]

def ActiveToast.entry (active : ActiveToast) : Toast × Nat := (active.toast, active.id.number)

namespace ToastQueue

def entries (queue : ToastQueue) : List (Toast × Nat) := queue.active.map (·.entry)

def outcomes (queue : ToastQueue) : List QueueAction → List QueueOutcome
  | [] => []
  | action :: actions => (queue.act action).2 :: (queue.act action).1.outcomes actions

theorem outcomes_given (queue : ToastQueue) (actions : List QueueAction) :
    (queue.outcomes actions).filterMap (·.given?) = List.range' (queue.lastId + 1) (pushed actions).length := by
  induction actions generalizing queue with
  | nil => rfl
  | cons action actions ih =>
      have later := ih (queue.act action).1
      rw [act_last_id] at later
      cases action with
      | push toast => exact congrArg ((queue.lastId + 1) :: ·) later
      | _ => exact later

theorem act_entries (queue : ToastQueue) (action : QueueAction) (numbered : queue.Numbered) :
    (queue.act action).1.entries =
      (queue.active.filter fun active => (active.act action).isSome).map (·.entry) ++
        action.pushed?.toList.map fun toast => (toast, queue.lastId + 1) := by
  have shown : (action.shown? queue.lastId).toList.map (·.entry) =
      action.pushed?.toList.map fun toast => (toast, queue.lastId + 1) := by
    cases action <;> rfl
  rw [entries, act_active queue action numbered, List.map_append, shown, filter_map_view]
  intro before after kept
  obtain ⟨id, toast⟩ := before.act_same after action kept
  rw [ActiveToast.entry, id, toast]
  rfl

-- What is on screen when these toasts were shown one after the other: some of them, under the numbers they got.
structure Holds (queue : ToastQueue) (shown : List Toast) : Prop where
  numbered : queue.Numbered
  given : queue.lastId = shown.length
  some : queue.entries.Sublist (shown.zipIdx 1)

theorem empty_holds : empty.Holds [] := ⟨empty_numbered, rfl, .slnil⟩

theorem Holds.act {queue : ToastQueue} {shown : List Toast} (holds : queue.Holds shown) (action : QueueAction) :
    (queue.act action).1.Holds (shown ++ action.pushed?.toList) where
  numbered := act_numbered queue action holds.numbered
  given := by
    rw [act_last_id, holds.given, List.length_append]
    cases action <;> rfl
  some := by
    have next : (action.pushed?.toList.map fun toast => (toast, queue.lastId + 1)) =
        action.pushed?.toList.zipIdx (1 + shown.length) := by
      rw [holds.given, Nat.add_comm]
      cases action <;> rfl
    rw [act_entries queue action holds.numbered, List.zipIdx_append, next]
    exact ((List.filter_sublist.map _).trans holds.some).append (List.Sublist.refl _)

theorem run_snoc (queue : ToastQueue) (actions : List QueueAction) (action : QueueAction) :
    queue.run (actions ++ [action]) = ((queue.run actions).act action).1 := run_append queue actions [action]

theorem pushed_snoc (actions : List QueueAction) (action : QueueAction) :
    pushed (actions ++ [action]) = pushed actions ++ action.pushed?.toList := by
  rw [pushed, List.filterMap_append]
  cases action <;> rfl

theorem run_holds (actions : List QueueAction) : (empty.run actions).Holds (pushed actions) := by
  induction actions using List.reverseRecOn with
  | nil => exact empty_holds
  | append_singleton actions action ih =>
      rw [run_snoc, pushed_snoc]
      exact ih.act action

def Shows (queue : ToastQueue) (id : ToastId) (toast : Toast) : Prop :=
  ∃ active ∈ queue.active, active.id = id ∧ active.toast = toast

def removed (queue : ToastQueue) (action : QueueAction) : List ActiveToast :=
  queue.active.filter fun active => (queue.act action).1.active.all fun kept => kept.id ≠ active.id

end ToastQueue

inductive Removal
  | dismissed
  | expired
  | cleared
deriving DecidableEq

def QueueAction.removal? : QueueAction → Option Removal
  | .dismiss _ => some .dismissed
  | .advance _ => some .expired
  | .dismissAll => some .cleared
  | _ => none

inductive Whereabouts
  | onScreen
  | removed (way : Removal) (step : Nat)
deriving DecidableEq

namespace ToastQueue

-- Whether an action takes a toast off in some way: it returns the toast that it dismisses, returns the toasts
-- whose time ran out, or counts all that were on screen.
def Removes (queue : ToastQueue) (action : QueueAction) (id : ToastId) (toast : Toast) : Removal → Prop
  | .dismissed => action = .dismiss id ∧ (queue.act action).2 = .dismissed (some toast)
  | .expired => ∃ elapsed, action = .advance elapsed ∧
      ∃ active ∈ queue.removed action, active.id = id ∧ active.toast = toast
  | .cleared => action = .dismissAll ∧ queue.Shows id toast

def IsAt (actions : List QueueAction) (id : ToastId) (toast : Toast) : Whereabouts → Prop
  | .onScreen => (empty.run actions).Shows id toast
  | .removed way step => ∃ action, actions[step]? = some action ∧
      (empty.run (actions.take step)).Removes action id toast way

variable {queue : ToastQueue} {action : QueueAction} {id : ToastId} {toast : Toast} {way : Removal}

theorem dismiss_outcome (numbered : queue.Numbered) :
    (queue.act (.dismiss id)).2 = .dismissed (some toast) ↔ queue.Shows id toast := by
  change QueueOutcome.dismissed (queue.dismiss id).2 = _ ↔ _
  unfold dismiss
  cases found : queue.active.find? fun active => active.id == id with
  | none =>
      refine iff_of_false (fun same => nomatch same) ?_
      rintro ⟨active, present, same, -⟩
      exact List.find?_eq_none.mp found active present (beq_iff_eq.mpr same)
  | some first =>
      have own : first.id = id := by simpa using List.find?_some found
      have present := List.mem_of_find?_eq_some found
      constructor
      · intro same
        cases same
        exact ⟨first, present, own, rfl⟩
      · rintro ⟨active, shown, same, rfl⟩
        rw [numbered.eq_of_id active first shown present (same.trans own.symm)]

theorem removed_eq (numbered : queue.Numbered) (action : QueueAction) :
    queue.removed action = queue.active.filter fun active => (active.act action).isNone := by
  refine List.filter_congr fun active present => ?_
  rw [Bool.eq_iff_iff, Option.isNone_iff_eq_none, queue.act_none_iff action active numbered present, List.all_eq_true]
  simp only [decide_eq_true_eq]

theorem mem_removed_iff {active : ActiveToast} (numbered : queue.Numbered) :
    active ∈ queue.removed action ↔ active ∈ queue.active ∧ active.act action = none := by
  rw [removed_eq numbered, List.mem_filter, Option.isNone_iff_eq_none]

theorem Removes.active (removes : queue.Removes action id toast way) (numbered : queue.Numbered) :
    ∃ active ∈ queue.active, active.id = id ∧ active.toast = toast ∧ active.act action = none := by
  cases way with
  | dismissed =>
      obtain ⟨rfl, outcome⟩ := removes
      obtain ⟨active, present, same, content⟩ := (dismiss_outcome numbered).mp outcome
      exact ⟨active, present, same, content, if_pos same⟩
  | expired =>
      obtain ⟨elapsed, rfl, active, gone, same, content⟩ := removes
      obtain ⟨present, none⟩ := (mem_removed_iff numbered).mp gone
      exact ⟨active, present, same, content, none⟩
  | cleared =>
      obtain ⟨rfl, active, present, same, content⟩ := removes
      exact ⟨active, present, same, content, rfl⟩

theorem Removes.of_active (numbered : queue.Numbered) {active : ActiveToast} (present : active ∈ queue.active)
    (gone : active.act action = none) : ∃ way, queue.Removes action active.id active.toast way := by
  cases action with
  | dismiss id =>
      have same : active.id = id := by
        by_contra different
        rw [ActiveToast.act, if_neg different] at gone
        cases gone
      subst same
      exact ⟨.dismissed, rfl, (dismiss_outcome numbered).mpr ⟨active, present, rfl, rfl⟩⟩
  | dismissAll => exact ⟨.cleared, rfl, active, present, rfl, rfl⟩
  | advance elapsed =>
      exact ⟨.expired, elapsed, rfl, active, (mem_removed_iff numbered).mpr ⟨present, gone⟩, rfl, rfl⟩
  | push toast => cases gone
  | focus id => cases gone
  | blur id => cases gone

theorem Removes.removal (removes : queue.Removes action id toast way) : action.removal? = some way := by
  cases way with
  | dismissed =>
      obtain ⟨rfl, -⟩ := removes
      rfl
  | expired =>
      obtain ⟨elapsed, rfl, -⟩ := removes
      rfl
  | cleared =>
      obtain ⟨rfl, -⟩ := removes
      rfl

-- Being taken off is settled by the actions up to then; a further action can only add to it as the last one.
theorem is_at_removed_snoc (actions : List QueueAction) (step : Nat) :
    IsAt (actions ++ [action]) id toast (.removed way step) ↔
      IsAt actions id toast (.removed way step) ∨
        step = actions.length ∧ (empty.run actions).Removes action id toast way := by
  simp only [IsAt]
  rcases Nat.lt_trichotomy step actions.length with earlier | rfl | beyond
  · rw [List.getElem?_append_left earlier, List.take_append_of_le_length (Nat.le_of_lt earlier)]
    simp [Nat.ne_of_lt earlier]
  · simp
  · have past : (actions ++ [action])[step]? = none := List.getElem?_eq_none (by simpa using Nat.succ_le_of_lt beyond)
    have pastAlready : actions[step]? = none := List.getElem?_eq_none (Nat.le_of_lt beyond)
    simp [past, pastAlready, Nat.ne_of_gt beyond]

theorem Shows.given {actions : List QueueAction} (shows : (empty.run actions).Shows id toast) :
    id.number ≤ (pushed actions).length := by
  obtain ⟨active, present, rfl, -⟩ := shows
  have holds := run_holds actions
  exact holds.given ▸ holds.numbered.given active present

theorem IsAt.given {actions : List QueueAction} {place : Whereabouts} (isAt : IsAt actions id toast place) :
    id.number ≤ (pushed actions).length := by
  cases place with
  | onScreen => exact Shows.given isAt
  | removed way step =>
      obtain ⟨action, -, removes⟩ := isAt
      obtain ⟨active, present, same, content, -⟩ := removes.active (run_holds _).numbered
      have atMost := Shows.given ⟨active, present, same, content⟩
      have fewer := ((List.take_sublist step actions).filterMap QueueAction.pushed?).length_le
      exact Nat.le_trans atMost fewer

theorem Shows.of_act (numbered : queue.Numbered) (old : id.number ≤ queue.lastId)
    (shows : (queue.act action).1.Shows id toast) :
    ∃ active ∈ queue.active, active.id = id ∧ active.toast = toast ∧ active.act action ≠ none := by
  obtain ⟨kept, found, rfl, rfl⟩ := shows
  obtain ⟨before, present, stays⟩ := queue.stayed_of_old action kept numbered found old
  obtain ⟨sameId, sameToast⟩ := before.act_same kept action stays
  exact ⟨before, present, sameId.symm, sameToast.symm, by simp [stays]⟩

theorem Shows.act (numbered : queue.Numbered) {active next : ActiveToast} (present : active ∈ queue.active)
    (stays : active.act action = some next) : (queue.act action).1.Shows active.id active.toast := by
  obtain ⟨sameId, sameToast⟩ := active.act_same next action stays
  refine ⟨next, ?_, sameId, sameToast⟩
  rw [act_active queue action numbered]
  exact List.mem_append_left _ (List.mem_filterMap.mpr ⟨active, present, stays⟩)

theorem one_place_of_shown (actions : List QueueAction) (action : QueueAction)
    (shows : (empty.run actions).Shows id toast) (only : ∀ place, IsAt actions id toast place → place = .onScreen) :
    ∃! place, IsAt (actions ++ [action]) id toast place := by
  have holds := run_holds actions
  have notBefore (way : Removal) (step : Nat) : ¬ IsAt actions id toast (.removed way step) :=
    fun isAt => nomatch only _ isAt
  obtain ⟨active, present, rfl, rfl⟩ := shows
  cases result : active.act action with
  | some next =>
      have stays : IsAt (actions ++ [action]) active.id active.toast .onScreen := by
        change (empty.run (actions ++ [action])).Shows _ _
        rw [run_snoc]
        exact Shows.act holds.numbered present result
      refine ⟨.onScreen, stays, fun other isAt => ?_⟩
      cases other with
      | onScreen => rfl
      | removed way step =>
          obtain before | ⟨-, removes⟩ := (is_at_removed_snoc actions step).mp isAt
          · exact absurd before (notBefore way step)
          · obtain ⟨gone, found, same, -, none⟩ := removes.active holds.numbered
            rw [holds.numbered.eq_of_id gone active found present same, result] at none
            cases none
  | none =>
      obtain ⟨way, removes⟩ := Removes.of_active holds.numbered present result
      refine ⟨.removed way actions.length, (is_at_removed_snoc actions _).mpr (.inr ⟨rfl, removes⟩), fun other isAt => ?_⟩
      cases other with
      | onScreen =>
          change (empty.run (actions ++ [action])).Shows _ _ at isAt
          rw [run_snoc] at isAt
          obtain ⟨kept, found, same, -, stays⟩ :=
            Shows.of_act holds.numbered (holds.numbered.given active present) isAt
          rw [holds.numbered.eq_of_id kept active found present same] at stays
          exact absurd result stays
      | removed otherWay step =>
          obtain before | ⟨rfl, again⟩ := (is_at_removed_snoc actions step).mp isAt
          · exact absurd before (notBefore otherWay step)
          · rw [Option.some.inj (again.removal.symm.trans removes.removal)]

theorem one_place_of_removed (actions : List QueueAction) (action : QueueAction) (step : Nat)
    (isAt : IsAt actions id toast (.removed way step))
    (only : ∀ place, IsAt actions id toast place → place = .removed way step) :
    ∃! place, IsAt (actions ++ [action]) id toast place := by
  have holds := run_holds actions
  have gone : ¬ (empty.run actions).Shows id toast := fun shows => nomatch only .onScreen shows
  refine ⟨.removed way step, (is_at_removed_snoc actions step).mpr (.inl isAt), fun other otherAt => ?_⟩
  cases other with
  | onScreen =>
      change (empty.run (actions ++ [action])).Shows _ _ at otherAt
      rw [run_snoc] at otherAt
      have old : id.number ≤ (empty.run actions).lastId := holds.given ▸ isAt.given
      obtain ⟨active, present, same, content, -⟩ := Shows.of_act holds.numbered old otherAt
      exact absurd ⟨active, present, same, content⟩ gone
  | removed otherWay otherStep =>
      obtain before | ⟨-, removes⟩ := (is_at_removed_snoc actions otherStep).mp otherAt
      · exact only _ before
      · obtain ⟨active, present, same, content, -⟩ := removes.active holds.numbered
        exact absurd ⟨active, present, same, content⟩ gone

theorem one_place_of_pushed (actions : List QueueAction) (toast : Toast) :
    ∃! place, IsAt (actions ++ [.push toast]) ⟨(pushed actions).length + 1⟩ toast place := by
  have holds := run_holds actions
  have shows : IsAt (actions ++ [.push toast]) ⟨(pushed actions).length + 1⟩ toast .onScreen := by
    refine ⟨ActiveToast.fresh ⟨(pushed actions).length + 1⟩ toast, ?_, rfl, rfl⟩
    rw [run_snoc, act_active _ _ holds.numbered, holds.given]
    exact List.mem_append_right _ (List.mem_singleton_self _)
  refine ⟨.onScreen, shows, fun other isAt => ?_⟩
  cases other with
  | onScreen => rfl
  | removed way step =>
      obtain before | ⟨-, removes⟩ := (is_at_removed_snoc actions step).mp isAt
      · exact absurd before.given (Nat.not_succ_le_self _)
      · cases removes.removal

theorem one_place (actions : List QueueAction) (entry : Toast × Nat) (found : entry ∈ (pushed actions).zipIdx 1) :
    ∃! place, IsAt actions ⟨entry.2⟩ entry.1 place := by
  induction actions using List.reverseRecOn with
  | nil => exact nomatch found
  | append_singleton actions action ih =>
      rw [pushed_snoc, List.zipIdx_append] at found
      cases List.mem_append.mp found with
      | inl old =>
          obtain ⟨place, isAt, only⟩ := ih old
          cases place with
          | onScreen => exact one_place_of_shown actions action isAt only
          | removed way step => exact one_place_of_removed actions action step isAt only
      | inr new =>
          cases action with
          | push toast =>
              rw [List.mem_singleton.mp new, Nat.add_comm]
              exact one_place_of_pushed actions toast
          | _ => exact nomatch new

theorem dismiss_keeps_others (numbered : queue.Numbered) (id : ToastId) :
    (queue.act (.dismiss id)).1.active = queue.active.filter fun active => active.id ≠ id := by
  have others : (fun active : ActiveToast => active.act (.dismiss id)) = Option.guard fun active => active.id ≠ id := by
    funext active
    by_cases same : active.id = id <;> simp [ActiveToast.act, Option.guard, same]
  refine (dismiss_active queue id numbered).trans ?_
  rw [others, List.filterMap_eq_filter]

theorem advance_keeps_others (numbered : queue.Numbered) (elapsed : Duration) :
    (queue.act (.advance elapsed)).1.entries =
      (queue.active.filter fun active => active ∉ queue.removed (.advance elapsed)).map (·.entry) := by
  rw [act_entries queue _ numbered]
  refine (List.append_nil _).trans (congrArg (List.map _) (List.filter_congr fun active present => ?_))
  rw [Bool.eq_iff_iff, Option.isSome_iff_ne_none]
  simp [mem_removed_iff numbered, present]

end ToastQueue

theorem toasts_conserved (actions : List QueueAction) :
    let queue := ToastQueue.empty.run actions
    let shown := (pushed actions).zipIdx 1
    let given := (ToastQueue.empty.outcomes actions).filterMap (·.given?)
    queue.active.Pairwise (fun a b => a.id.number < b.id.number) ∧
    queue.entries.Sublist shown ∧
    given = List.range' 1 (pushed actions).length ∧ given.Nodup ∧
    (∀ entry ∈ shown, ∃! place, ToastQueue.IsAt actions ⟨entry.2⟩ entry.1 place) ∧
    (∀ id,
      let done := queue.act (.dismiss id)
      (∀ toast, done.2 = .dismissed (some toast) ↔ queue.Shows id toast) ∧
      done.1.active = queue.active.filter fun active => active.id ≠ id) ∧
    (∀ elapsed,
      let done := queue.act (.advance elapsed)
      let expired := queue.removed (.advance elapsed)
      done.2 = .expired (expired.map (·.toast)) ∧ expired.Sublist queue.active ∧
      done.1.entries = (queue.active.filter fun active => active ∉ expired).map (·.entry)) ∧
    queue.act .dismissAll = (⟨queue.lastId, []⟩, .dismissedAll queue.active.length) := by
  intro queue shown given
  have holds : queue.Holds (pushed actions) := ToastQueue.run_holds actions
  have numbers : given = List.range' 1 (pushed actions).length := ToastQueue.empty.outcomes_given actions
  refine ⟨holds.numbered.rising, holds.some, numbers, numbers ▸ List.nodup_range', ToastQueue.one_place actions,
    fun id => ⟨fun toast => ToastQueue.dismiss_outcome holds.numbered, ToastQueue.dismiss_keeps_others holds.numbered id⟩,
    fun elapsed => ⟨?_, List.filter_sublist, ToastQueue.advance_keeps_others holds.numbered elapsed⟩, rfl⟩
  rw [ToastQueue.removed_eq holds.numbered]
  rfl

theorem three_toasts_conserved :
    let brief := (Toast.warning "brief" .default).withDuration (Duration.ofMilliseconds 5)
    let lasting := Toast.warning "lasting" .default
    let actions : List QueueAction :=
      [.push brief, .push lasting, .dismiss ⟨2⟩, .push lasting, .advance (Duration.ofMilliseconds 5), .dismissAll]
    let entries := [(brief, 1), (lasting, 2), (lasting, 3)]
    (∀ entry ∈ entries, entry ∈ (pushed actions).zipIdx 1) ∧
      (∀ entry ∈ entries, ∃! place, ToastQueue.IsAt actions ⟨entry.2⟩ entry.1 place) ∧
      ToastQueue.IsAt actions ⟨1⟩ brief (.removed .expired 4) ∧
      ToastQueue.IsAt actions ⟨2⟩ lasting (.removed .dismissed 2) ∧
      ToastQueue.IsAt actions ⟨3⟩ lasting (.removed .cleared 5) := by
  intro brief lasting actions entries
  have found : ∀ entry ∈ entries, entry ∈ (pushed actions).zipIdx 1 := fun entry found => found
  refine ⟨found, fun entry present => (toasts_conserved actions).2.2.2.2.1 entry (found entry present), ?_, ?_, ?_⟩
  · exact ⟨_, rfl, _, rfl, ActiveToast.fresh ⟨1⟩ brief, by decide +kernel, rfl, rfl⟩
  · exact ⟨_, rfl, rfl, rfl⟩
  · exact ⟨_, rfl, rfl, ActiveToast.fresh ⟨3⟩ lasting, by decide +kernel, rfl, rfl⟩

end PageFeedback
