import PageFeedback.Proofs.Binary64.Order
import PageFeedback.Settings.Basic

set_option autoImplicit false

namespace PageFeedback

def ProgressSettings.IsAccepted (settings : ProgressSettings) : Prop :=
  Binary64.zero ≤ settings.minimum ∧ settings.minimum < Binary64.one

theorem FeedbackSettings.validate_iff (settings : FeedbackSettings) :
    settings.validate = .ok () ↔ settings.progress.IsAccepted ∧
      Text.isBlankText settings.swap.redirectHeader = false ∧
      Text.isBlankText settings.toast.networkErrorText = false := by
  unfold validate ProgressSettings.IsAccepted
  dsimp only
  split
  next outside =>
    constructor
    · intro accepted
      cases accepted
    · intro accepted
      exact absurd accepted.1 outside
  next inside =>
    rw [and_iff_right (Decidable.not_not.mp inside)]
    cases Text.isBlankText settings.swap.redirectHeader <;>
      cases Text.isBlankText settings.toast.networkErrorText <;> simp

theorem FeedbackSettings.progress_accepted (settings : FeedbackSettings) (accepted : settings.validate = .ok ()) :
    settings.progress.IsAccepted := (settings.validate_iff.mp accepted).1

-- In usable states, an indicator that is started runs, and one that is done does not.
structure ProgressIndicator.Obeys {P : Type} [ProgressIndicator P] (usable : P → Prop) : Prop where
  start : ∀ indicator, usable indicator →
    usable (ProgressIndicator.start indicator) ∧ ProgressIndicator.isStarted (ProgressIndicator.start indicator) = true
  done : ∀ indicator, usable indicator →
    usable (ProgressIndicator.done indicator) ∧ ProgressIndicator.isStarted (ProgressIndicator.done indicator) = false

namespace ProgressBar

def IsUsable (bar : ProgressBar) : Prop := bar.settings.IsAccepted

theorem zero_lt_one : Binary64.zero < Binary64.one := by decide +kernel

theorem ceiling_lt_one : ceiling < Binary64.one := by decide +kernel

theorem set_settings (bar : ProgressBar) (value : Binary64) : (bar.set value).settings = bar.settings := by
  unfold set
  dsimp only
  split <;> rfl

theorem set_starts (bar : ProgressBar) (value : Binary64) :
    (bar.set value).starts = bar.starts + if bar.isStarted then 0 else 1 := by
  unfold set
  dsimp only
  split <;> cases bar.isStarted <;> rfl

theorem set_completions (bar : ProgressBar) (value : Binary64) :
    (bar.set value).completions = bar.completions + if (bar.set value).isStarted then 0 else 1 := by
  unfold set
  dsimp only
  split <;> rfl

theorem set_below_one (bar : ProgressBar) (value : Binary64)
    (less : value.larger bar.settings.minimum < Binary64.one) :
    bar.set value =
      { bar with
        status := some (value.larger bar.settings.minimum)
        starts := if bar.isStarted then bar.starts else bar.starts + 1 } := by
  rw [set, Binary64.smaller_of_lt less, if_neg (Binary64.not_le_of_lt less)]

theorem set_runs (bar : ProgressBar) (value : Binary64) (usable : bar.IsUsable)
    (below : value.IsNotAtLeast Binary64.one) : (bar.set value).isStarted = true := by
  -- Raised to a minimum below one, the fill is still below one, and only one ends a run.
  have less := Binary64.larger_lt below usable.2
  rw [set_below_one bar value less]
  rfl

theorem set_one_ends (bar : ProgressBar) (usable : bar.IsUsable) : (bar.set Binary64.one).isStarted = false := by
  have fill : (Binary64.one.larger bar.settings.minimum).smaller Binary64.one = Binary64.one := by
    have larger : Binary64.one.larger bar.settings.minimum = Binary64.one := by
      rw [Binary64.larger, if_neg (by decide +kernel), if_neg (Binary64.lt_asymm usable.2)]
    rw [larger]
    decide +kernel
  have full : Binary64.one ≤ Binary64.one := by decide +kernel
  unfold set
  dsimp only
  rw [fill, if_pos full]
  rfl

theorem start_usable (bar : ProgressBar) (usable : bar.IsUsable) : bar.start.IsUsable := by
  unfold start
  split
  · exact usable
  · unfold IsUsable
    rwa [set_settings]

theorem start_runs (bar : ProgressBar) (usable : bar.IsUsable) : bar.start.isStarted = true := by
  unfold start
  split
  next running => exact running
  next => exact bar.set_runs Binary64.zero usable (.inr zero_lt_one)

theorem start_counts (bar : ProgressBar) (usable : bar.IsUsable) (idle : bar.isStarted = false) :
    bar.start.starts = bar.starts + 1 ∧ bar.start.completions = bar.completions := by
  have runs := bar.start_runs usable
  rw [start, if_neg (Bool.eq_false_iff.mp idle)] at runs ⊢
  rw [set_starts, set_completions, idle, runs]
  exact ⟨rfl, rfl⟩

theorem done_usable (bar : ProgressBar) (usable : bar.IsUsable) : bar.done.IsUsable := by
  unfold done
  split
  · unfold IsUsable
    rwa [set_settings]
  · exact usable

theorem done_ends (bar : ProgressBar) (usable : bar.IsUsable) : bar.done.isStarted = false := by
  unfold done
  split
  · exact bar.set_one_ends usable
  next idle => exact Bool.eq_false_iff.mpr idle

theorem done_counts (bar : ProgressBar) (usable : bar.IsUsable) (running : bar.isStarted = true) :
    bar.done.starts = bar.starts ∧ bar.done.completions = bar.completions + 1 := by
  have ends := bar.done_ends usable
  rw [done, if_pos running] at ends ⊢
  rw [set_starts, set_completions, running, ends]
  exact ⟨rfl, rfl⟩

theorem trickle_usable (bar : ProgressBar) (usable : bar.IsUsable) : bar.trickle.IsUsable := by
  unfold trickle
  split
  · unfold inc
    split
    · exact bar.start_usable usable
    · unfold IsUsable
      rwa [set_settings]
  · exact usable

theorem inc_runs (bar : ProgressBar) (amount : Option Binary64) (usable : bar.IsUsable) :
    (bar.inc amount).isStarted = true := by
  unfold inc
  split
  · exact bar.start_runs usable
  · -- Whatever the amount is, the fill is clamped below one, or it is NaN and passed over.
    exact bar.set_runs _ usable (Binary64.clamp_not_at_least ceiling_lt_one)

theorem trickle_is_started (bar : ProgressBar) (usable : bar.IsUsable) : bar.trickle.isStarted = bar.isStarted := by
  unfold trickle
  split
  next creeps => exact (bar.inc_runs none usable).trans (Bool.and_eq_true_iff.mp creeps).2.symm
  · rfl

theorem trickle_counts (bar : ProgressBar) (usable : bar.IsUsable) :
    bar.trickle.starts = bar.starts ∧ bar.trickle.completions = bar.completions := by
  have runs := bar.trickle_is_started usable
  unfold trickle at runs ⊢
  split at runs
  next creeps =>
    have running := (Bool.and_eq_true_iff.mp creeps).2
    rw [if_pos creeps]
    unfold inc at runs ⊢
    cases fill : bar.status with
    | none => simp [isStarted, fill] at running
    | some value =>
        simp only [fill] at runs ⊢
        rw [set_starts, set_completions, runs, running]
        exact ⟨rfl, rfl⟩
  next rests => rw [if_neg rests]; exact ⟨rfl, rfl⟩

theorem bar_obeys : ProgressIndicator.Obeys IsUsable where
  start bar usable := ⟨bar.start_usable usable, bar.start_runs usable⟩
  done bar usable := ⟨bar.done_usable usable, bar.done_ends usable⟩

end ProgressBar

namespace TerminalBar

def IsUsable (bar : TerminalBar) : Prop := bar.model.IsUsable

theorem terminal_obeys : ProgressIndicator.Obeys IsUsable where
  start bar usable := ⟨bar.model.start_usable usable, bar.model.start_runs usable⟩
  done bar usable := ⟨bar.model.done_usable usable, bar.model.done_ends usable⟩

theorem tick_usable (bar : TerminalBar) (usable : bar.IsUsable) : bar.tick.IsUsable :=
  bar.model.trickle_usable usable

theorem tick_is_started (bar : TerminalBar) (usable : bar.IsUsable) : bar.tick.model.isStarted = bar.model.isStarted :=
  bar.model.trickle_is_started usable

end TerminalBar

end PageFeedback
