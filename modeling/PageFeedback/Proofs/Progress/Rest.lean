import Mathlib.Dynamics.FixedPoints.Basic
import PageFeedback.Proofs.Progress.Creep

set_option autoImplicit false

namespace PageFeedback

namespace ProgressSettings

open ProgressBar (ceiling trickleStep)

variable {settings : ProgressSettings} {fill high step : Binary64}

theorem iterate_admitted (accepted : settings.IsAccepted) (admitted : settings.Admits fill) (ticks : Nat) :
    settings.Admits (settings.crept^[ticks] fill) := by
  cases ticks with
  | zero => exact admitted
  | succ ticks =>
      rw [Function.iterate_succ_apply']
      exact crept_admitted accepted _

theorem iterate_keeps {bound : Int} (accepted : settings.IsAccepted) (admitted : settings.Admits fill)
    (held : bound ≤ ceiling.rank) (kept : bound ≤ fill.rank) (ticks : Nat) :
    bound ≤ (settings.crept^[ticks] fill).rank := by
  induction ticks with
  | zero => exact kept
  | succ ticks ih =>
      rw [Function.iterate_succ_apply']
      exact crept_keeps accepted (iterate_admitted accepted admitted ticks) held ih

-- Below `high`, every tick adds at least `step`, but for what rounding takes.
structure StepsBelow (high step : Binary64) : Prop where
  number : high.isNaN = false
  held : high.rank ≤ ceiling.rank
  adds : ∀ fill, fill < high → step.rank ≤ (trickleStep fill).rank

theorem crept_climbs {reached : Int} (accepted : settings.IsAccepted) (admitted : settings.Admits fill)
    (steps : StepsBelow high step) (before : high.rank ≤ fill.rank ∨ reached ≤ fill.rank) :
    high.rank ≤ (settings.crept fill).rank ∨
      reached + (step.rank - Binary64.lastPlace) ≤ (settings.crept fill).rank := by
  by_cases through : high.rank ≤ fill.rank
  · exact .inl (crept_keeps accepted admitted steps.held through)
  · have kept := before.resolve_left through
    have below := (Binary64.lt_iff _ _).mpr ⟨admitted.number, steps.number, Int.not_le.mp through⟩
    have added := steps.adds fill below
    -- The sum may be above the ceiling, which is above `high`.
    by_cases within : reached + (step.rank - Binary64.lastPlace) ≤ ceiling.rank
    · exact .inr (crept_gains accepted admitted within (by omega))
    · have held := steps.held
      exact .inl (crept_gains accepted admitted held (by omega))

theorem iterate_climbs (accepted : settings.IsAccepted) (admitted : settings.Admits fill) (steps : StepsBelow high step)
    (ticks : Nat) :
    high.rank ≤ (settings.crept^[ticks] fill).rank ∨
      fill.rank + ticks * (step.rank - Binary64.lastPlace) ≤ (settings.crept^[ticks] fill).rank := by
  induction ticks with
  | zero => exact .inr (by simp)
  | succ ticks ih =>
      have climbed := crept_climbs accepted (iterate_admitted accepted admitted ticks) steps ih
      rw [Function.iterate_succ_apply', Int.natCast_succ, Int.add_mul, Int.one_mul, ← Int.add_assoc]
      exact climbed

theorem iterate_passes {low : Int} (accepted : settings.IsAccepted) (admitted : settings.Admits fill)
    (steps : StepsBelow high step) (ticks : Nat) (fromLow : low ≤ fill.rank)
    (enough : high.rank ≤ low + ticks * (step.rank - Binary64.lastPlace)) :
    high.rank ≤ (settings.crept^[ticks] fill).rank := by
  rcases iterate_climbs accepted admitted steps ticks with through | climbed
  · exact through
  · omega

theorem steps_to_fifth : StepsBelow (Decimal.toBinary64 false ⟨2, -1⟩) (Decimal.toBinary64 false ⟨1, -1⟩) where
  number := by decide +kernel
  held := by decide +kernel
  adds fill below := by rw [trickleStep, if_pos below]

theorem steps_to_half : StepsBelow (Decimal.toBinary64 false ⟨5, -1⟩) (Decimal.toBinary64 false ⟨4, -2⟩) where
  number := by decide +kernel
  held := by decide +kernel
  adds fill below := by
    rw [trickleStep, if_pos below]
    split_ifs <;> decide +kernel

theorem steps_to_four_fifths :
    StepsBelow (Decimal.toBinary64 false ⟨8, -1⟩) (Decimal.toBinary64 false ⟨2, -2⟩) where
  number := by decide +kernel
  held := by decide +kernel
  adds fill below := by
    rw [trickleStep, if_pos below]
    split_ifs <;> decide +kernel

theorem steps_to_rest : StepsBelow (Decimal.toBinary64 false ⟨99, -2⟩) (Decimal.toBinary64 false ⟨5, -3⟩) where
  number := ProgressBar.rest_number
  held := ProgressBar.rest_le_ceiling
  adds _ := ProgressBar.trickle_step_lasts

-- 66 ticks are enough: 3, 8, 16 and 39 for the four steps.
theorem reaches_rest (accepted : settings.IsAccepted) (admitted : settings.Admits fill) {ticks : Nat}
    (enough : 66 ≤ ticks) : (Decimal.toBinary64 false ⟨99, -2⟩).rank ≤ (settings.crept^[ticks] fill).rank := by
  obtain ⟨more, rfl⟩ : ∃ more, ticks = more + (39 + (16 + (8 + 3))) := ⟨ticks - 66, by omega⟩
  rw [Function.iterate_add_apply, Function.iterate_add_apply, Function.iterate_add_apply, Function.iterate_add_apply]
  have fifth := iterate_passes accepted admitted steps_to_fifth 3 (admitted.ranks accepted).1 (by decide +kernel)
  have admitted := iterate_admitted accepted admitted 3
  generalize settings.crept^[3] fill = fill at fifth admitted ⊢
  have half := iterate_passes accepted admitted steps_to_half 8 fifth (by decide +kernel)
  have admitted := iterate_admitted accepted admitted 8
  generalize settings.crept^[8] fill = fill at half admitted ⊢
  have fourFifths := iterate_passes accepted admitted steps_to_four_fifths 16 half (by decide +kernel)
  have admitted := iterate_admitted accepted admitted 16
  generalize settings.crept^[16] fill = fill at fourFifths admitted ⊢
  have rest := iterate_passes accepted admitted steps_to_rest 39 fourFifths (by decide +kernel)
  have admitted := iterate_admitted accepted admitted 39
  exact iterate_keeps accepted admitted steps_to_rest.held rest more

structure IsAtRest (settings : ProgressSettings) (fill : Binary64) : Prop where
  slow : (Decimal.toBinary64 false ⟨99, -2⟩).rank ≤ fill.rank
  low : fill ≤ ceiling ∨ fill = settings.minimum

theorem comes_to_rest (accepted : settings.IsAccepted) (admitted : settings.Admits fill) {ticks : Nat}
    (enough : 66 ≤ ticks) : settings.IsAtRest (settings.crept^[ticks] fill) := by
  refine ⟨reaches_rest accepted admitted enough, ?_⟩
  obtain ⟨before, rfl⟩ : ∃ before, ticks = before + 1 := ⟨ticks - 1, by omega⟩
  rw [Function.iterate_succ_apply']
  exact settings.crept_at_most _

theorem IsAtRest.fixed (rest : settings.IsAtRest fill) (accepted : settings.IsAccepted)
    (admitted : settings.Admits fill) : Function.IsFixedPt settings.crept fill := by
  have above := admitted.above accepted.minimum_number
  by_cases low : fill ≤ ceiling
  · change settings.crept fill = fill
    rw [crept, sum_at_rest rest.slow, Binary64.smaller_of_le low, Binary64.larger_of_le above]
  · have minimum := rest.low.resolve_left low
    have forward := (forward_iff accepted admitted).mpr (.inr (minimum ▸ above))
    have notLow : ¬ settings.crept fill ≤ ceiling := fun next => low (Binary64.le_trans forward next)
    exact ((settings.crept_at_most fill).resolve_left notLow).trans minimum.symm

theorem IsAtRest.at_most (rest : settings.IsAtRest fill) (accepted : settings.IsAccepted) :
    fill ≤ ceiling.larger settings.minimum := by
  rcases rest.low with low | same
  · exact Binary64.le_trans low (Binary64.le_larger_first settings.minimum ProgressBar.ceiling_number)
  · rw [same]
    exact Binary64.le_larger ceiling accepted.minimum_number

end ProgressSettings

namespace ProgressBar

variable {settings : ProgressSettings} {fill : Binary64} {bar : ProgressBar}

theorem IsAt.trickles (atFill : IsAt settings fill bar) (creeps : settings.trickle = true) (ticks : Nat) :
    bar.run (List.replicate ticks .trickle) = { bar with status := some (settings.crept^[ticks] fill) } := by
  induction ticks generalizing bar fill with
  | zero =>
      rw [Function.iterate_zero_apply, ← atFill.running]
      rfl
  | succ ticks ih =>
      have next : bar.trickle = { bar with status := some (settings.crept fill) } := by
        rw [atFill.trickle, if_pos creeps]
      have atNext : IsAt settings (settings.crept fill) bar.trickle := by
        rw [next]
        exact ⟨rfl, atFill.same, atFill.accepted, ProgressSettings.crept_admitted atFill.accepted fill⟩
      change bar.trickle.run (List.replicate ticks .trickle) = _
      rw [ih atNext, Function.iterate_succ_apply, next]

end ProgressBar

theorem creeping_comes_to_rest (settings : ProgressSettings) (actions : List BarAction) (ticks : Nat)
    (accepted : settings.IsAccepted) (creeps : settings.trickle = true)
    (running : ((ProgressBar.new settings).run actions).isStarted = true) (enough : 100 ≤ ticks) :
    let bar := ((ProgressBar.new settings).run actions).run (List.replicate ticks .trickle)
    ∃ fill, bar.status = some fill ∧ Decimal.toBinary64 false ⟨99, -2⟩ ≤ fill ∧
      fill ≤ ProgressBar.ceiling.larger settings.minimum ∧ bar.trickle = bar := by
  intro bar
  obtain ⟨first, status⟩ := Option.isSome_iff_exists.mp running
  have atFirst := ProgressBar.run_is_at accepted actions status
  have trickled := atFirst.trickles creeps ticks
  have rest := ProgressSettings.comes_to_rest accepted atFirst.admitted (show 66 ≤ ticks by omega)
  have admitted := ProgressSettings.iterate_admitted accepted atFirst.admitted ticks
  generalize settings.crept^[ticks] first = fill at trickled rest admitted
  have atFill : ProgressBar.IsAt settings fill bar := by
    refine ⟨?_, ?_, accepted, admitted⟩
    · exact congrArg ProgressBar.status trickled
    · exact (congrArg ProgressBar.settings trickled).trans atFirst.same
  refine ⟨fill, atFill.running, ?_, rest.at_most accepted, ?_⟩
  · exact (Binary64.le_iff _ _).mpr ⟨ProgressBar.rest_number, admitted.number, rest.slow⟩
  · rw [atFill.trickle, if_pos creeps, rest.fixed accepted admitted, ← atFill.running]

theorem rest_after_wild_values :
    let settings : ProgressSettings := { ProgressSettings.default with minimum := Decimal.toBinary64 false ⟨995, -3⟩ }
    let actions := [BarAction.start, .set .nan, .set (Decimal.toBinary64 false ⟨999, -3⟩)]
    let bar := ((ProgressBar.new settings).run actions).run (List.replicate 100 .trickle)
    settings.IsAccepted ∧ settings.trickle = true ∧ ((ProgressBar.new settings).run actions).isStarted = true ∧
      100 ≤ 100 ∧ ∃ fill, bar.status = some fill ∧ Decimal.toBinary64 false ⟨99, -2⟩ ≤ fill ∧
        fill ≤ ProgressBar.ceiling.larger settings.minimum ∧ bar.trickle = bar := by
  intro settings actions bar
  have accepted : settings.IsAccepted := ⟨by decide +kernel, by decide +kernel⟩
  have running : ((ProgressBar.new settings).run actions).isStarted = true := by decide +kernel
  exact ⟨accepted, rfl, running, Nat.le_refl 100,
    creeping_comes_to_rest settings actions 100 accepted rfl running (Nat.le_refl 100)⟩

end PageFeedback
