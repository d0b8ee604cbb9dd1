import Mathlib.Tactic.SplitIfs
import PageFeedback.Proofs.Binary64.Sum
import PageFeedback.Proofs.Progress.Range

set_option autoImplicit false

namespace PageFeedback

def ProgressSettings.crept (settings : ProgressSettings) (fill : Binary64) : Binary64 :=
  ((fill + ProgressBar.trickleStep fill).smaller ProgressBar.ceiling).larger settings.minimum

namespace ProgressBar

theorem ceiling_number : ceiling.isNaN = false := by decide +kernel

theorem rest_number : (Decimal.toBinary64 false ⟨99, -2⟩).isNaN = false := by decide +kernel

theorem rest_le_ceiling : (Decimal.toBinary64 false ⟨99, -2⟩).rank ≤ ceiling.rank := by decide +kernel

theorem place_lt_step : Binary64.lastPlace < (Decimal.toBinary64 false ⟨5, -3⟩).rank := by decide +kernel

theorem trickle_step_number (fill : Binary64) :
    (trickleStep fill).isNaN = false ∧ 0 ≤ (trickleStep fill).rank ∧ (trickleStep fill).rank ≤ Binary64.one.rank := by
  unfold trickleStep
  split_ifs <;> decide +kernel

theorem trickle_step_lasts {fill : Binary64} (below : fill < Decimal.toBinary64 false ⟨99, -2⟩) :
    (Decimal.toBinary64 false ⟨5, -3⟩).rank ≤ (trickleStep fill).rank := by
  unfold trickleStep
  rw [if_pos below]
  split_ifs <;> decide +kernel

theorem trickle_step_ends {fill : Binary64} (above : (Decimal.toBinary64 false ⟨99, -2⟩).rank ≤ fill.rank) :
    trickleStep fill = Binary64.zero := by
  have notBelow (bound : Binary64) (low : bound.rank ≤ (Decimal.toBinary64 false ⟨99, -2⟩).rank) : ¬ fill < bound := by
    rw [Binary64.lt_iff]
    omega
  unfold trickleStep
  rw [if_neg (notBelow _ (by decide +kernel)), if_neg (notBelow _ (by decide +kernel)),
    if_neg (notBelow _ (by decide +kernel)), if_neg (notBelow _ (by decide +kernel))]

end ProgressBar

namespace ProgressSettings

open ProgressBar (ceiling trickleStep)

variable {settings : ProgressSettings} {fill : Binary64}

theorem IsAccepted.minimum_number (accepted : settings.IsAccepted) : settings.minimum.isNaN = false :=
  ((Binary64.lt_iff _ _).mp accepted.2).1

theorem Admits.ranks (admitted : settings.Admits fill) (accepted : settings.IsAccepted) :
    0 ≤ fill.rank ∧ settings.minimum.rank ≤ fill.rank ∧ fill.rank < Binary64.one.rank := by
  have above := ((Binary64.le_iff _ _).mp (admitted.above accepted.minimum_number)).2.2
  have below := ((Binary64.lt_iff _ _).mp admitted.below).2.2
  have fromZero : Binary64.zero.rank ≤ settings.minimum.rank := ((Binary64.le_iff _ _).mp accepted.1).2.2
  rw [Binary64.zero_rank] at fromZero
  omega

theorem crept_admitted (accepted : settings.IsAccepted) (fill : Binary64) : settings.Admits (settings.crept fill) := by
  have lowered : (fill + trickleStep fill).smaller ceiling < Binary64.one := by
    have atMost := (Binary64.le_iff _ _).mp
      (Binary64.smaller_le (fill + trickleStep fill) ProgressBar.ceiling_number)
    have less := (Binary64.lt_iff _ _).mp ProgressBar.ceiling_lt_one
    exact (Binary64.lt_iff _ _).mpr ⟨atMost.1, less.2.1, by omega⟩
  have below : settings.crept fill < Binary64.one := Binary64.larger_lt (.inr lowered) accepted.2
  exact ⟨((Binary64.lt_iff _ _).mp below).1, below, Binary64.le_larger _⟩

theorem sum_near (accepted : settings.IsAccepted) (admitted : settings.Admits fill) :
    (fill + trickleStep fill).isNaN = false ∧ 0 ≤ (fill + trickleStep fill).rank ∧
      fill.rank + (trickleStep fill).rank < (fill + trickleStep fill).rank + Binary64.lastPlace := by
  have ranks := admitted.ranks accepted
  obtain ⟨number, upward, atMost⟩ := ProgressBar.trickle_step_number fill
  exact Binary64.add_near admitted.number number ranks.1 upward ranks.2.2 atMost

theorem crept_ge {bound : Int} (held : bound ≤ ceiling.rank) (added : bound ≤ (fill + trickleStep fill).rank) :
    bound ≤ (settings.crept fill).rank := by
  have number := Binary64.smaller_is_number (fill + trickleStep fill) ProgressBar.ceiling_number
  have lowered : bound ≤ ((fill + trickleStep fill).smaller ceiling).rank := Binary64.le_smaller_rank added held
  have raised := Binary64.le_larger_first settings.minimum number
  exact Int.le_trans lowered ((Binary64.le_iff _ _).mp raised).2.2

theorem crept_gains {bound : Int} (accepted : settings.IsAccepted) (admitted : settings.Admits fill)
    (held : bound ≤ ceiling.rank) (gained : bound + Binary64.lastPlace ≤ fill.rank + (trickleStep fill).rank) :
    bound ≤ (settings.crept fill).rank := by
  have near := (sum_near accepted admitted).2.2
  exact crept_ge held (by omega)

theorem sum_at_rest (above : (Decimal.toBinary64 false ⟨99, -2⟩).rank ≤ fill.rank) : fill + trickleStep fill = fill := by
  have positive : 0 < (Decimal.toBinary64 false ⟨99, -2⟩).rank := by decide +kernel
  rw [ProgressBar.trickle_step_ends above]
  exact Binary64.add_zero (by omega)

theorem crept_keeps {bound : Int} (accepted : settings.IsAccepted) (admitted : settings.Admits fill)
    (held : bound ≤ ceiling.rank) (kept : bound ≤ fill.rank) : bound ≤ (settings.crept fill).rank := by
  -- Either nothing is added and the sum is exact, or more is added than rounding takes.
  by_cases above : (Decimal.toBinary64 false ⟨99, -2⟩).rank ≤ fill.rank
  · refine crept_ge held ?_
    rw [sum_at_rest above]
    exact kept
  · have below := (Binary64.lt_iff _ _).mpr ⟨admitted.number, ProgressBar.rest_number, Int.not_le.mp above⟩
    have step := ProgressBar.trickle_step_lasts below
    have place := ProgressBar.place_lt_step
    exact crept_gains accepted admitted held (by omega)

theorem crept_at_most (settings : ProgressSettings) (fill : Binary64) :
    settings.crept fill ≤ ceiling ∨ settings.crept fill = settings.minimum := by
  rcases Binary64.larger_is_either ((fill + trickleStep fill).smaller ceiling) settings.minimum with same | same
  · left
    rw [crept, same]
    exact Binary64.smaller_le _ ProgressBar.ceiling_number
  · exact .inr same

theorem crept_above (admitted : settings.Admits fill) (above : ¬ fill ≤ ceiling) :
    settings.crept fill = ceiling.larger settings.minimum := by
  have beyond := Binary64.lt_of_not_le admitted.number ProgressBar.ceiling_number above
  have ranks := (Binary64.lt_iff _ _).mp beyond
  have resting := ProgressBar.rest_le_ceiling
  have lowered : fill.smaller ceiling = ceiling := by
    rw [Binary64.smaller, if_neg (Bool.eq_false_iff.mp admitted.number), if_pos beyond]
  rw [crept, sum_at_rest (by omega), lowered]

theorem crept_moves (accepted : settings.IsAccepted) (admitted : settings.Admits fill)
    (below : fill < Decimal.toBinary64 false ⟨99, -2⟩) : fill < settings.crept fill := by
  have less := ((Binary64.lt_iff _ _).mp below).2.2
  have resting := ProgressBar.rest_le_ceiling
  have step := ProgressBar.trickle_step_lasts below
  have place := ProgressBar.place_lt_step
  have more : fill.rank + 1 ≤ (settings.crept fill).rank := crept_gains accepted admitted (by omega) (by omega)
  exact (Binary64.lt_iff _ _).mpr ⟨admitted.number, (crept_admitted accepted fill).number, more⟩

theorem forward_iff (accepted : settings.IsAccepted) (admitted : settings.Admits fill) :
    fill ≤ settings.crept fill ↔ fill ≤ ceiling ∨ fill ≤ settings.minimum := by
  have next := crept_admitted accepted fill
  constructor
  · intro forward
    rcases settings.crept_at_most fill with low | same
    · exact .inl (Binary64.le_trans forward low)
    · exact .inr (same ▸ forward)
  · rintro (low | low)
    · have ranks := (Binary64.le_iff _ _).mp low
      exact (Binary64.le_iff _ _).mpr
        ⟨admitted.number, next.number, crept_keeps accepted admitted ranks.2.2 (Int.le_refl _)⟩
    · exact Binary64.le_trans low (next.above accepted.minimum_number)

end ProgressSettings

namespace ProgressBar

structure IsAt (settings : ProgressSettings) (fill : Binary64) (bar : ProgressBar) : Prop where
  running : bar.status = some fill
  same : bar.settings = settings
  accepted : settings.IsAccepted
  admitted : settings.Admits fill

theorem run_is_at {settings : ProgressSettings} {fill : Binary64} (accepted : settings.IsAccepted)
    (actions : List BarAction) (running : ((new settings).run actions).status = some fill) :
    IsAt settings fill ((new settings).run actions) := by
  obtain ⟨sound, same⟩ := (new settings).run_sound actions (new_sound settings)
  have admitted := sound.admitted fill running
  rw [same] at admitted
  exact ⟨running, same, accepted, admitted⟩

namespace IsAt

variable {settings : ProgressSettings} {fill : Binary64} {bar : ProgressBar}

theorem started (atFill : IsAt settings fill bar) : bar.isStarted = true := by
  rw [isStarted, atFill.running]
  rfl

theorem inc (atFill : IsAt settings fill bar) : bar.inc none = { bar with status := some (settings.crept fill) } := by
  obtain ⟨number, upward, -⟩ := ProgressSettings.sum_near atFill.accepted atFill.admitted
  have notBelow : ¬ fill + trickleStep fill < Binary64.zero := by
    rw [Binary64.lt_iff, Binary64.zero_rank]
    omega
  have less := (ProgressSettings.crept_admitted atFill.accepted fill).below
  rw [ProgressSettings.crept, ← atFill.same] at less
  rw [ProgressBar.inc, atFill.running]
  dsimp only [Option.getD_none]
  rw [Binary64.clamp_of_not_lt ceiling number notBelow, set_below_one bar _ less, if_pos atFill.started, atFill.same,
    ProgressSettings.crept]

theorem trickle (atFill : IsAt settings fill bar) :
    bar.trickle = if settings.trickle then { bar with status := some (settings.crept fill) } else bar := by
  rw [ProgressBar.trickle, atFill.started, atFill.inc, Bool.and_true, atFill.same]

end IsAt

end ProgressBar

-- A tick moves a bar forward, except one that was set above both the ceiling and the minimum: it falls back to
-- the higher of these.
theorem forward_up_to_ceiling (settings : ProgressSettings) (actions : List BarAction) (fill : Binary64)
    (accepted : settings.IsAccepted) (running : ((ProgressBar.new settings).run actions).status = some fill) :
    let bar := (ProgressBar.new settings).run actions
    ∃ next, (bar.inc none).status = some next ∧
      bar.trickle.status = some (if settings.trickle then next else fill) ∧
      (fill ≤ next ↔ fill ≤ ProgressBar.ceiling ∨ fill ≤ settings.minimum) ∧
      (fill < Decimal.toBinary64 false ⟨99, -2⟩ → fill < next) ∧
      (¬ fill ≤ next → next = ProgressBar.ceiling.larger settings.minimum) := by
  intro bar
  have atFill : ProgressBar.IsAt settings fill bar := ProgressBar.run_is_at accepted actions running
  have forward := ProgressSettings.forward_iff accepted atFill.admitted
  refine ⟨settings.crept fill, ?_, ?_, forward, ?_, ?_⟩
  · rw [atFill.inc]
  · rw [atFill.trickle]
    split
    · rfl
    · exact atFill.running
  · exact ProgressSettings.crept_moves accepted atFill.admitted
  · intro back
    have above : ¬ fill ≤ ProgressBar.ceiling := fun low => back (forward.mpr (.inl low))
    exact ProgressSettings.crept_above atFill.admitted above

theorem forward_from_half :
    let half := Decimal.toBinary64 false ⟨5, -1⟩
    let bar := (ProgressBar.new ProgressSettings.default).run [.set half]
    ProgressSettings.default.IsAccepted ∧ bar.status = some half ∧
      ∃ next, (bar.inc none).status = some next ∧ bar.trickle.status = some next ∧ half < next := by
  intro half bar
  have accepted : ProgressSettings.default.IsAccepted := ⟨by decide +kernel, by decide +kernel⟩
  have running : bar.status = some half := by decide +kernel
  obtain ⟨next, advanced, crept, -, moves, -⟩ :=
    forward_up_to_ceiling ProgressSettings.default [.set half] half accepted running
  exact ⟨accepted, running, next, advanced, crept, moves (by decide +kernel)⟩

-- Nothing is added at this fill, but the ceiling is applied to it all the same.
theorem back_from_above_ceiling :
    let high := Decimal.toBinary64 false ⟨999, -3⟩
    let bar := (ProgressBar.new ProgressSettings.default).run [.set high]
    ProgressSettings.default.IsAccepted ∧ bar.status = some high ∧ ProgressBar.trickleStep high = Binary64.zero ∧
      bar.trickle.status = some ProgressBar.ceiling ∧ (bar.inc none).status = some ProgressBar.ceiling ∧
      ¬ high ≤ ProgressBar.ceiling := by
  intro high bar
  refine ⟨⟨?_, ?_⟩, ?_, ?_, ?_, ?_, ?_⟩ <;> decide +kernel

end PageFeedback
