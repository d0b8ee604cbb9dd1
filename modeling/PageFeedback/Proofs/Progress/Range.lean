import PageFeedback.Proofs.Binary64.Shortest
import PageFeedback.Proofs.Progress

set_option autoImplicit false

namespace PageFeedback

-- A NaN bounds nothing, so a minimum that is NaN leaves the fill without a lower bound.
structure ProgressSettings.Admits (settings : ProgressSettings) (fill : Binary64) : Prop where
  number : fill.isNaN = false
  below : fill < Binary64.one
  above : settings.minimum.isNaN = false → settings.minimum ≤ fill

theorem Binary64.zero_of_rank {a : Binary64} (number : a.isNaN = false) (none : a.rank = 0) :
    ∃ negative, a = .finite negative Magnitude.zero := by
  have positive : 0 < Magnitude.unitsBound := by decide +kernel
  cases a with
  | nan => cases number
  | infinity negative => cases negative <;> simp only [rank] at none <;> omega
  | finite negative size =>
      have units : size.units = 0 := by
        cases negative <;> simp only [rank, signed, if_true, Bool.false_eq_true, if_false] at none <;> omega
      have significand : size.significand = 0 :=
        (Nat.mul_eq_zero.mp units).resolve_right (Nat.ne_of_gt (Nat.two_pow_pos _))
      exact ⟨negative, congrArg _ (size.eq_zero_of_significand significand)⟩

namespace ProgressBar

structure IsSound (bar : ProgressBar) : Prop where
  balanced : bar.starts = bar.completions + if bar.isStarted then 1 else 0
  admitted : ∀ fill, bar.status = some fill → bar.settings.Admits fill

theorem new_sound (settings : ProgressSettings) : (new settings).IsSound := ⟨rfl, fun _ running => nomatch running⟩

theorem set_admitted (bar : ProgressBar) (value fill : Binary64) (running : (bar.set value).status = some fill) :
    bar.settings.Admits fill := by
  have oneNumber : Binary64.one.isNaN = false := by decide +kernel
  unfold set at running
  dsimp only at running
  split at running
  · cases running
  next goesOn =>
    obtain rfl := Option.some.inj running
    have number := Binary64.smaller_is_number (value.larger bar.settings.minimum) oneNumber
    refine ⟨number, Binary64.lt_of_not_le oneNumber number goesOn, fun bounded => ?_⟩
    -- What was lowered to one has ended the run, so the fill is the raised value.
    have raised := (Binary64.smaller_is_either (value.larger bar.settings.minimum) Binary64.one).resolve_right
      fun lowered => by
        rw [lowered] at goesOn
        exact goesOn (Binary64.le_self oneNumber)
    rw [raised]
    exact Binary64.le_larger value bounded

theorem set_sound (bar : ProgressBar) (value : Binary64) (sound : bar.IsSound) : (bar.set value).IsSound where
  balanced := by
    rw [set_starts, set_completions, sound.balanced]
    cases bar.isStarted <;> cases (bar.set value).isStarted <;> simp
  admitted fill running := by
    rw [set_settings]
    exact bar.set_admitted value fill running

inductive Sets (bar : ProgressBar) : ProgressBar → Prop
  | left : Sets bar bar
  | filled (value : Binary64) : Sets bar (bar.set value)

theorem start_sets (bar : ProgressBar) : bar.Sets bar.start := by
  unfold start
  split
  · exact .left
  · exact .filled _

theorem inc_sets (bar : ProgressBar) (amount : Option Binary64) : bar.Sets (bar.inc amount) := by
  unfold inc
  split
  · exact bar.start_sets
  · exact .filled _

theorem act_sets (bar : ProgressBar) (action : BarAction) : bar.Sets (bar.act action) := by
  cases action with
  | start => exact bar.start_sets
  | done =>
      simp only [act, done]
      split
      · exact .filled _
      · exact .left
  | set value => exact .filled value
  | inc amount => exact bar.inc_sets amount
  | trickle =>
      simp only [act, trickle]
      split
      · exact bar.inc_sets none
      · exact .left

theorem act_sound (bar : ProgressBar) (action : BarAction) (sound : bar.IsSound) :
    (bar.act action).IsSound ∧ (bar.act action).settings = bar.settings := by
  have sets := bar.act_sets action
  generalize bar.act action = next at sets
  cases sets with
  | left => exact ⟨sound, rfl⟩
  | filled value => exact ⟨bar.set_sound value sound, bar.set_settings value⟩

theorem run_sound (bar : ProgressBar) (actions : List BarAction) (sound : bar.IsSound) :
    (bar.run actions).IsSound ∧ (bar.run actions).settings = bar.settings := by
  induction actions generalizing bar with
  | nil => exact ⟨sound, rfl⟩
  | cons action actions ih =>
      obtain ⟨soundNext, sameSettings⟩ := bar.act_sound action sound
      obtain ⟨soundLast, settingsLast⟩ := ih (bar.act action) soundNext
      exact ⟨soundLast, settingsLast.trans sameSettings⟩

-- An idle bar starts at its minimum. A minimum of negative
-- zero is no larger than zero, which then stays.
theorem start_fill (bar : ProgressBar) (usable : bar.IsUsable) (idle : bar.isStarted = false) :
    ∃ fill, bar.start.status = some fill ∧ fill ≤ bar.settings.minimum ∧ bar.settings.minimum ≤ fill ∧
      (fill = bar.settings.minimum ∨ bar.settings.minimum = .finite true Magnitude.zero) := by
  obtain ⟨atLeast, below⟩ := usable
  have number := ((Binary64.le_iff _ _).mp atLeast).2.1
  have zeroNumber : ¬ Binary64.zero.isNaN = true := Bool.false_ne_true
  have status (fill : Binary64) (raised : Binary64.zero.larger bar.settings.minimum = fill)
      (less : fill < Binary64.one) : bar.start.status = some fill := by
    rw [start, if_neg (Bool.eq_false_iff.mp idle), set_below_one bar _ (raised ▸ less), raised]
  by_cases positive : Binary64.zero < bar.settings.minimum
  · have raised : Binary64.zero.larger bar.settings.minimum = bar.settings.minimum := by
      rw [Binary64.larger, if_neg zeroNumber, if_pos positive]
    exact ⟨_, status _ raised below, Binary64.le_self number, Binary64.le_self number, .inl rfl⟩
  · have atMost : bar.settings.minimum ≤ Binary64.zero := Binary64.le_of_not_lt rfl number positive
    have raised : Binary64.zero.larger bar.settings.minimum = Binary64.zero := by
      rw [Binary64.larger, if_neg zeroNumber, if_neg positive]
    refine ⟨_, status _ raised zero_lt_one, atLeast, atMost, ?_⟩
    have none : bar.settings.minimum.rank = 0 := by
      have lower := ((Binary64.le_iff _ _).mp atLeast).2.2
      have upper := ((Binary64.le_iff _ _).mp atMost).2.2
      exact Int.le_antisymm upper lower
    obtain ⟨negative, zero⟩ := Binary64.zero_of_rank number none
    cases negative with
    | false => exact .inl zero.symm
    | true => exact .inr zero

theorem inc_of_idle (bar : ProgressBar) (amount : Option Binary64) (idle : bar.isStarted = false) :
    bar.inc amount = bar.start := by
  have none : bar.status = none := Option.isSome_eq_false_iff.mp idle |> Option.isNone_iff_eq_none.mp
  rw [inc, none]

end ProgressBar

theorem bar_stays_in_range (settings : ProgressSettings) (actions : List BarAction) :
    let bar := (ProgressBar.new settings).run actions
    bar.starts = bar.completions + (if bar.isStarted then 1 else 0) ∧
    (∀ fill, bar.status = some fill →
      fill.isNaN = false ∧ fill < Binary64.one ∧ (settings.minimum.isNaN = false → settings.minimum ≤ fill)) ∧
    (settings.IsAccepted → bar.isStarted = true →
      bar.start = bar ∧ bar.trickle.isStarted = true ∧ ∀ amount, (bar.inc amount).isStarted = true) ∧
    (settings.IsAccepted → bar.isStarted = false →
      bar.done = bar ∧ (∀ amount, bar.inc amount = bar.start) ∧
      ∃ fill, bar.start.status = some fill ∧ fill ≤ settings.minimum ∧ settings.minimum ≤ fill ∧
        (fill = settings.minimum ∨ settings.minimum = .finite true Magnitude.zero)) := by
  intro bar
  obtain ⟨sound, sameSettings⟩ := (ProgressBar.new settings).run_sound actions (ProgressBar.new_sound settings)
  have usable (accepted : settings.IsAccepted) : bar.IsUsable := by
    unfold ProgressBar.IsUsable
    rwa [show bar.settings = settings from sameSettings]
  refine ⟨sound.balanced, fun fill running => ?_, fun accepted running => ?_, fun accepted idle => ?_⟩
  · obtain ⟨number, below, above⟩ := sound.admitted fill running
    rw [sameSettings] at above
    exact ⟨number, below, above⟩
  · exact ⟨if_pos running, (bar.trickle_is_started (usable accepted)).trans running,
      fun amount => bar.inc_runs amount (usable accepted)⟩
  · have filled := bar.start_fill (usable accepted) idle
    rw [show bar.settings = settings from sameSettings] at filled
    exact ⟨if_neg (Bool.eq_false_iff.mp idle), fun amount => bar.inc_of_idle amount idle, filled⟩

theorem bar_after_wild_values :
    let settings := ProgressSettings.default
    let running := (ProgressBar.new settings).run [.set .nan, .inc (some (.infinity true)), .trickle]
    let idle := (ProgressBar.new settings).run [.inc none, .set (.infinity false)]
    settings.IsAccepted ∧ running.isStarted = true ∧ idle.isStarted = false ∧
      running.starts = running.completions + 1 ∧ (running.inc (some .nan)).isStarted = true ∧
      idle.starts = idle.completions ∧ idle.done = idle ∧ idle.inc (some .nan) = idle.start := by
  intro settings running idle
  have accepted : settings.IsAccepted := ⟨by decide +kernel, by decide +kernel⟩
  have runs : running.isStarted = true := by decide +kernel
  have rests : idle.isStarted = false := by decide +kernel
  obtain ⟨balance, -, whileRunning, -⟩ := bar_stays_in_range settings [.set .nan, .inc (some (.infinity true)), .trickle]
  obtain ⟨balanceIdle, -, -, whileIdle⟩ := bar_stays_in_range settings [.inc none, .set (.infinity false)]
  obtain ⟨-, -, goesOn⟩ := whileRunning accepted runs
  obtain ⟨doneIdle, incIdle, -⟩ := whileIdle accepted rests
  change running.starts = running.completions + (if running.isStarted then 1 else 0) at balance
  change idle.starts = idle.completions + (if idle.isStarted then 1 else 0) at balanceIdle
  rw [if_pos runs] at balance
  rw [if_neg (Bool.eq_false_iff.mp rests), Nat.add_zero] at balanceIdle
  exact ⟨accepted, runs, rests, balance, goesOn (some .nan), balanceIdle, doneIdle, incIdle (some .nan)⟩

end PageFeedback
