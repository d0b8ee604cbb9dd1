import PageFeedback.Proofs.Binary64.Order
import PageFeedback.Proofs.Binary64.Shortest

set_option autoImplicit false

namespace PageFeedback

namespace Magnitude

theorem scale_le {num bits : Nat} (small : num < 2 ^ (53 + bits)) : scale num 1 ≤ bits := by
  rw [scale, Nat.div_one]
  by_cases none : num = 0
  · rw [none]
    exact Nat.zero_le bits
  · have leading := (Nat.log2_lt none).mpr small
    omega

-- Rounding leaves out less than one unit in the last place.
theorem nearest_units_near {num bits : Nat} (small : num < 2 ^ (53 + bits)) (room : bits < 2045) :
    ∃ size, nearest? num 1 = some size ∧ num < size.units + 2 ^ bits := by
  have scaled := scale_le small
  have positive : 0 < 2 ^ scale num 1 := Nat.two_pow_pos _
  have widest : 2 ^ scale num 1 ≤ 2 ^ bits := Nat.pow_le_pow_right (by decide) scaled
  have near := (round_half_even_bounds num (1 * 2 ^ scale num 1)).1
  have below : num < (num / 2 ^ scale num 1 + 1) * 2 ^ scale num 1 := by
    rw [Nat.succ_mul]
    exact Nat.lt_div_mul_add positive
  have short : num < roundHalfEven num (1 * 2 ^ scale num 1) * 2 ^ scale num 1 + 2 ^ bits := by
    rw [Nat.one_mul] at near ⊢
    calc num < (num / 2 ^ scale num 1 + 1) * 2 ^ scale num 1 := below
      _ ≤ (roundHalfEven num (2 ^ scale num 1) + 1) * 2 ^ scale num 1 :=
        Nat.mul_le_mul_right _ (Nat.succ_le_succ near)
      _ = roundHalfEven num (2 ^ scale num 1) * 2 ^ scale num 1 + 2 ^ scale num 1 := Nat.succ_mul _ _
      _ ≤ _ := Nat.add_le_add_left widest _
  unfold nearest?
  dsimp only
  by_cases carry : roundHalfEven num (1 * 2 ^ scale num 1) = 2 ^ 53
  · -- A significand that grows to 54 bits gives its last one to the exponent.
    rw [dif_pos carry, dif_pos (show scale num 1 + 1 ≤ 2045 by omega)]
    refine ⟨_, rfl, ?_⟩
    rw [carry] at short
    have shifted : 2 ^ 52 * 2 ^ (scale num 1 + 1) = 2 ^ 53 * 2 ^ scale num 1 := by
      rw [Nat.pow_succ' (n := scale num 1), ← Nat.mul_assoc]
    rw [units, shifted]
    exact short
  · rw [dif_neg carry, dif_pos (show scale num 1 ≤ 2045 by omega)]
    exact ⟨_, rfl, short⟩

end Magnitude

namespace Binary64

@[irreducible] def lastPlace : Nat := unitsInOne / 2 ^ 52

theorem add_finite (left right : Bool) (a b : Magnitude) :
    finite left a + finite right b =
      if signed left a + signed right b = 0 then finite (left && right) Magnitude.zero
      else ofRatio (decide (signed left a + signed right b < 0)) (signed left a + signed right b).natAbs 1 := by
  change add _ _ = _
  unfold add
  rfl

theorem signed_zero (negative : Bool) : signed negative Magnitude.zero = 0 := by
  cases negative <;> simp [signed, Magnitude.units, Magnitude.zero]

theorem of_units (negative : Bool) (size : Magnitude) : ofRatio negative size.units 1 = finite negative size := by
  unfold ofRatio
  rw [size.nearest_units]

theorem add_zero {a : Binary64} (nonzero : a.rank ≠ 0) : a + zero = a := by
  cases a with
  | nan => rfl
  | infinity negative => rfl
  | finite negative size =>
      change signed negative size ≠ 0 at nonzero
      rw [zero, add_finite, signed_zero, Int.add_zero, if_neg nonzero]
      cases negative with
      | false =>
          have upward : ¬ signed false size < 0 := Int.not_lt.mpr (Int.natCast_nonneg _)
          rw [decide_eq_false upward]
          exact of_units false size
      | true =>
          have downward : signed true size < 0 := by
            simp only [signed, if_true] at nonzero ⊢
            omega
          have size_units : (signed true size).natAbs = size.units := by simp [signed]
          rw [decide_eq_true downward, size_units]
          exact of_units true size

theorem zero_rank : zero.rank = 0 := signed_zero false

theorem one_rank : one.rank = unitsInOne := by decide +kernel

theorem last_place_bits : ∃ bits, bits < 2045 ∧ lastPlace = 2 ^ bits ∧ unitsInOne + unitsInOne = 2 ^ (53 + bits) := by
  obtain ⟨places, value⟩ : ∃ places : Nat, places = 1074 := ⟨1074, rfl⟩
  have room : places - 52 < 2045 := by omega
  have wide : 52 ≤ places := by omega
  have doubled : 53 + (places - 52) = places + 1 := by omega
  have units : unitsInOne = 2 ^ places := by
    rw [value]
    rfl
  refine ⟨places - 52, room, ?_, ?_⟩
  · unfold lastPlace
    rw [units, Nat.pow_div wide (by decide)]
  · rw [units, doubled, Nat.two_pow_succ]

theorem rounded_near (num : Nat) (small : num < unitsInOne + unitsInOne) :
    ∃ size, ofRatio false num 1 = finite false size ∧ num < size.units + lastPlace := by
  obtain ⟨bits, room, place, two⟩ := last_place_bits
  rw [two] at small
  obtain ⟨size, nearest, near⟩ := Magnitude.nearest_units_near small room
  refine ⟨size, ?_, place ▸ near⟩
  unfold ofRatio
  rw [nearest]

theorem add_near {a b : Binary64} (first : a.isNaN = false) (second : b.isNaN = false) (fromZero : 0 ≤ a.rank)
    (upward : 0 ≤ b.rank) (small : a.rank < one.rank) (smallStep : b.rank ≤ one.rank) :
    (a + b).isNaN = false ∧ 0 ≤ (a + b).rank ∧ a.rank + b.rank < (a + b).rank + lastPlace := by
  have wide : one.rank < Magnitude.unitsBound := by decide +kernel
  have rankOne := one_rank
  generalize one.rank = limit at small smallStep wide rankOne
  cases a with
  | nan => cases first
  | infinity negative => cases negative <;> simp only [rank] at small fromZero <;> omega
  | finite left a =>
      cases b with
      | nan => cases second
      | infinity negative => cases negative <;> simp only [rank] at smallStep upward <;> omega
      | finite right b =>
          change 0 ≤ signed left a at fromZero
          change 0 ≤ signed right b at upward
          change signed left a < limit at small
          change signed right b ≤ limit at smallStep
          change _ ∧ _ ∧ signed left a + signed right b < _
          rw [add_finite]
          obtain ⟨num, sum⟩ := Int.eq_ofNat_of_zero_le (Int.add_nonneg fromZero upward)
          rw [sum]
          by_cases none : (num : Int) = 0
          · rw [if_pos none, none]
            refine ⟨rfl, ?_, ?_⟩
            · exact Int.le_of_eq (signed_zero _).symm
            · rw [rank, signed_zero]
              have positive : 0 < lastPlace := by decide +kernel
              omega
          · have notDown : ¬ (num : Int) < 0 := Int.not_lt.mpr (Int.natCast_nonneg num)
            obtain ⟨size, rounded, near⟩ := rounded_near num (by omega)
            rw [if_neg none, decide_eq_false notDown, Int.natAbs_natCast, rounded]
            have value : (finite false size).rank = size.units := rfl
            refine ⟨rfl, ?_, ?_⟩ <;> omega

end Binary64

end PageFeedback
