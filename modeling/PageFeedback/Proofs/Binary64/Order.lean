import PageFeedback.Binary64.Basic

set_option autoImplicit false

namespace PageFeedback

@[irreducible] def Magnitude.unitsBound : Nat := 2 ^ 53 * 2 ^ 2045

theorem Magnitude.units_lt_bound (size : Magnitude) : size.units < Magnitude.unitsBound := by
  -- A variable in the place of 2045 keeps the powers from being computed.
  have below (top : Nat) (atMost : size.exponent ≤ top) : size.units < 2 ^ 53 * 2 ^ top :=
    calc size.significand * 2 ^ size.exponent
        < 2 ^ 53 * 2 ^ size.exponent := Nat.mul_lt_mul_of_pos_right size.bounded (Nat.two_pow_pos _)
      _ ≤ 2 ^ 53 * 2 ^ top := Nat.mul_le_mul_left _ (Nat.pow_le_pow_right (by decide) atMost)
  unfold unitsBound
  exact below 2045 size.finite

namespace Binary64

def rank : Binary64 → Int
  | nan => 0
  | infinity true => -(Magnitude.unitsBound : Int)
  | infinity false => Magnitude.unitsBound
  | finite negative size => signed negative size

theorem signed_bounds (negative : Bool) (size : Magnitude) :
    -(Magnitude.unitsBound : Int) < signed negative size ∧ signed negative size < Magnitude.unitsBound := by
  have bound := size.units_lt_bound
  cases negative <;> simp only [signed, if_true, Bool.false_eq_true, if_false] <;> omega

theorem lt_iff (a b : Binary64) : a < b ↔ a.isNaN = false ∧ b.isNaN = false ∧ a.rank < b.rank := by
  change a.isLess b = true ↔ _
  cases a with
  | nan => simp [isLess, isNaN]
  | infinity left =>
      cases b with
      | nan => simp [isLess, isNaN]
      | infinity right =>
          have positive : 0 < Magnitude.unitsBound := by decide +kernel
          cases left <;> cases right <;> simp [isLess, isNaN, rank]
          omega
      | finite right size =>
          have bounds := signed_bounds right size
          cases left <;> simp [isLess, isNaN, rank] <;> omega
  | finite left size =>
      cases b with
      | nan => simp [isLess, isNaN]
      | infinity right =>
          have bounds := signed_bounds left size
          cases right <;> simp [isLess, isNaN, rank] <;> omega
      | finite right other => simp [isLess, isNaN, rank]

theorem le_iff (a b : Binary64) : a ≤ b ↔ a.isNaN = false ∧ b.isNaN = false ∧ a.rank ≤ b.rank := by
  change a.isAtMost b = true ↔ _
  cases a with
  | nan => simp [isAtMost, isNaN]
  | infinity left =>
      cases b with
      | nan => simp [isAtMost, isNaN]
      | infinity right =>
          have positive : 0 < Magnitude.unitsBound := by decide +kernel
          cases left <;> cases right <;> simp [isAtMost, isNaN, rank]
          omega
      | finite right size =>
          have bounds := signed_bounds right size
          cases left <;> simp [isAtMost, isNaN, rank] <;> omega
  | finite left size =>
      cases b with
      | nan => simp [isAtMost, isNaN]
      | infinity right =>
          have bounds := signed_bounds left size
          cases right <;> simp [isAtMost, isNaN, rank] <;> omega
      | finite right other => simp [isAtMost, isNaN, rank]

theorem not_le_of_lt {a b : Binary64} (less : a < b) : ¬ b ≤ a := by
  rw [lt_iff] at less
  rw [le_iff]
  omega

theorem lt_asymm {a b : Binary64} (less : a < b) : ¬ b < a := by
  rw [lt_iff] at less ⊢
  omega

theorem le_of_lt {a b : Binary64} (less : a < b) : a ≤ b := by
  rw [lt_iff] at less
  exact (le_iff a b).mpr ⟨less.1, less.2.1, Int.le_of_lt less.2.2⟩

theorem lt_of_not_le {a b : Binary64} (first : a.isNaN = false) (second : b.isNaN = false) (notAtMost : ¬ a ≤ b) :
    b < a := by
  rw [le_iff] at notAtMost
  have more : ¬ a.rank ≤ b.rank := fun atMost => notAtMost ⟨first, second, atMost⟩
  exact (lt_iff b a).mpr ⟨second, first, Int.not_le.mp more⟩

theorem le_of_not_lt {a b : Binary64} (first : a.isNaN = false) (second : b.isNaN = false) (notLess : ¬ a < b) :
    b ≤ a := by
  rw [lt_iff] at notLess
  have atLeast : ¬ a.rank < b.rank := fun less => notLess ⟨first, second, less⟩
  exact (le_iff b a).mpr ⟨second, first, Int.not_lt.mp atLeast⟩

theorem le_self {a : Binary64} (number : a.isNaN = false) : a ≤ a := (le_iff a a).mpr ⟨number, number, Int.le_refl _⟩

theorem le_trans {a b c : Binary64} (first : a ≤ b) (second : b ≤ c) : a ≤ c := by
  rw [le_iff] at first second ⊢
  exact ⟨first.1, second.2.1, Int.le_trans first.2.2 second.2.2⟩

-- Below a bound, or no number at all.
def IsNotAtLeast (a bound : Binary64) : Prop := a.isNaN = true ∨ a < bound

theorem larger_lt {a b bound : Binary64} (first : a.IsNotAtLeast bound) (second : b < bound) :
    a.larger b < bound := by
  unfold larger
  split
  · exact second
  next number =>
    split
    · exact second
    · exact first.resolve_left number

theorem larger_is_either (a b : Binary64) : a.larger b = a ∨ a.larger b = b := by
  unfold larger
  split
  · exact .inr rfl
  · split
    · exact .inr rfl
    · exact .inl rfl

theorem le_larger (a : Binary64) {b : Binary64} (number : b.isNaN = false) : b ≤ a.larger b := by
  unfold larger
  split
  · exact le_self number
  next first =>
    split
    · exact le_self number
    next notLess => exact le_of_not_lt (Bool.eq_false_iff.mpr first) number notLess

theorem smaller_is_number (a : Binary64) {b : Binary64} (number : b.isNaN = false) : (a.smaller b).isNaN = false := by
  unfold smaller
  split
  · exact number
  next first =>
    split
    · exact number
    · exact Bool.eq_false_iff.mpr first

theorem smaller_is_either (a b : Binary64) : a.smaller b = a ∨ a.smaller b = b := by
  unfold smaller
  split
  · exact .inr rfl
  · split
    · exact .inr rfl
    · exact .inl rfl

theorem smaller_of_le {a b : Binary64} (atMost : a ≤ b) : a.smaller b = a := by
  have ranks := (le_iff a b).mp atMost
  have notAbove : ¬ b < a := fun less => not_le_of_lt less atMost
  rw [smaller, if_neg (Bool.eq_false_iff.mp ranks.1), if_neg notAbove]

theorem smaller_of_lt {a b : Binary64} (less : a < b) : a.smaller b = a := smaller_of_le (le_of_lt less)

theorem larger_of_le {a b : Binary64} (atMost : b ≤ a) : a.larger b = a := by
  have ranks := (le_iff b a).mp atMost
  have notBelow : ¬ a < b := fun less => not_le_of_lt less atMost
  rw [larger, if_neg (Bool.eq_false_iff.mp ranks.2.1), if_neg notBelow]

theorem clamp_not_at_least {a low high bound : Binary64} (less : high < bound) :
    (a.clamp low high).IsNotAtLeast bound := by
  have ranks := (lt_iff high bound).mp less
  unfold clamp
  dsimp only
  generalize (if a < low then low else a) = raised
  split
  · exact .inr less
  next notAbove =>
    cases number : raised.isNaN with
    | true => exact .inl number
    | false =>
        rw [lt_iff] at notAbove
        refine .inr ((lt_iff raised bound).mpr ⟨number, ranks.2.1, ?_⟩)
        have notMore : ¬ high.rank < raised.rank := fun more => notAbove ⟨ranks.1, number, more⟩
        omega

theorem le_larger_first {a : Binary64} (b : Binary64) (number : a.isNaN = false) : a ≤ a.larger b := by
  rw [larger, if_neg (Bool.eq_false_iff.mp number)]
  split
  next less => exact le_of_lt less
  next => exact le_self number

theorem le_smaller_rank {a b : Binary64} {bound : Int} (first : bound ≤ a.rank) (second : bound ≤ b.rank) :
    bound ≤ (a.smaller b).rank := by
  rcases smaller_is_either a b with same | same <;> rw [same] <;> assumption

theorem clamp_of_not_lt {a low : Binary64} (high : Binary64) (number : a.isNaN = false) (notBelow : ¬ a < low) :
    a.clamp low high = a.smaller high := by
  have first : ¬ a.isNaN = true := Bool.eq_false_iff.mp number
  rw [clamp, smaller, if_neg notBelow, if_neg first]

theorem smaller_le (a : Binary64) {b : Binary64} (number : b.isNaN = false) : a.smaller b ≤ b := by
  unfold smaller
  split
  · exact le_self number
  next first =>
    split
    · exact le_self number
    next notAbove => exact le_of_not_lt number (Bool.eq_false_iff.mpr first) notAbove

end Binary64

end PageFeedback
