import PageFeedback.Binary64.Decimal

set_option autoImplicit false

namespace PageFeedback

theorem round_half_even_scaled (num den factor : Nat) (positive : 0 < factor) :
    roundHalfEven (num * factor) (den * factor) = roundHalfEven num den := by
  have twice : 2 * (num % den * factor) = 2 * (num % den) * factor := (Nat.mul_assoc _ _ _).symm
  simp only [roundHalfEven, Nat.mul_div_mul_right num den positive, Nat.mul_mod_mul_right, twice,
    Nat.mul_lt_mul_right positive]

theorem round_half_even_exact (num den : Nat) (positive : 0 < den) : roundHalfEven (num * den) den = num := by
  simp [roundHalfEven, Nat.mul_div_cancel num positive, positive]

namespace Magnitude

theorem nearest_of_parts (size : Magnitude) (num den : Nat) (sameScale : scale num den = size.exponent)
    (sameSignificand : roundHalfEven num (den * 2 ^ scale num den) = size.significand) :
    nearest? num den = some size := by
  have noCarry : size.significand ≠ 2 ^ 53 := Nat.ne_of_lt size.bounded
  unfold nearest?
  dsimp only
  rw [dif_neg (by rw [sameSignificand]; exact noCarry), dif_pos (by rw [sameScale]; exact size.finite)]
  obtain ⟨significand, exponent, bounded, normal, finite⟩ := size
  congr

theorem nearest_scaled (num den factor : Nat) (positive : 0 < factor) :
    nearest? (num * factor) (den * factor) = nearest? num den := by
  have sameScale : scale (num * factor) (den * factor) = scale num den := by
    rw [scale, scale, Nat.mul_div_mul_right num den positive]
  have sameSignificand : roundHalfEven (num * factor) (den * factor * 2 ^ scale num den) =
      roundHalfEven num (den * 2 ^ scale num den) := by
    rw [Nat.mul_right_comm]
    exact round_half_even_scaled num _ factor positive
  unfold nearest?
  simp only [sameScale, sameSignificand]

theorem scale_units (size : Magnitude) : scale size.units 1 = size.exponent := by
  rw [scale, Nat.div_one, units]
  cases size.normal with
  | inl large =>
      -- The significand fills its 53 bits, so its units have the bits of the exponent besides.
      have positive : 0 < size.significand := Nat.lt_of_lt_of_le (Nat.two_pow_pos 52) large
      have nonzero : size.significand * 2 ^ size.exponent ≠ 0 :=
        Nat.ne_of_gt (Nat.mul_pos positive (Nat.two_pow_pos _))
      have leading : (size.significand * 2 ^ size.exponent).log2 = 52 + size.exponent := by
        refine (Nat.log2_eq_iff nonzero).mpr ⟨?_, ?_⟩
        · rw [Nat.pow_add]
          exact Nat.mul_le_mul_right _ large
        · rw [Nat.add_right_comm, Nat.pow_add]
          exact Nat.mul_lt_mul_of_pos_right size.bounded (Nat.two_pow_pos _)
      omega
  | inr small =>
      rw [small, Nat.pow_zero, Nat.mul_one]
      by_cases none : size.significand = 0
      · rw [none]
        rfl
      · have leading : size.significand.log2 < 53 := (Nat.log2_lt none).mpr size.bounded
        omega

theorem nearest_units (size : Magnitude) : nearest? size.units 1 = some size := by
  refine nearest_of_parts size _ _ size.scale_units ?_
  rw [size.scale_units, Nat.one_mul]
  exact round_half_even_exact _ _ (Nat.two_pow_pos _)

theorem nearest_zero (den : Nat) : nearest? 0 den = some zero := by
  refine nearest_of_parts zero 0 den ?_ ?_
  · rw [scale, Nat.zero_div]
    rfl
  · simp [roundHalfEven, zero]

theorem eq_zero_of_significand (size : Magnitude) (none : size.significand = 0) : size = zero := by
  obtain ⟨significand, exponent, bounded, normal, finite⟩ := size
  cases none
  cases normal.resolve_left (by decide)
  rfl

theorem nearest_significand_ne_zero {num den : Nat} {size : Magnitude} (large : 0 < num / den)
    (nearest : nearest? num den = some size) : size.significand ≠ 0 := by
  have quotient : 0 < num / (den * 2 ^ scale num den) := by
    cases scaled_quotient_normal num den with
    | inl normal => exact Nat.lt_of_lt_of_le (Nat.two_pow_pos 52) normal
    | inr unscaled => rwa [unscaled, Nat.pow_zero, Nat.mul_one]
  have rounded := (round_half_even_bounds num (den * 2 ^ scale num den)).1
  unfold nearest? at nearest
  dsimp only at nearest
  split at nearest
  · split at nearest
    · cases nearest
      exact Nat.ne_of_gt (Nat.two_pow_pos 52)
    · cases nearest
  · split at nearest
    · cases nearest
      exact Nat.ne_of_gt (Nat.lt_of_lt_of_le quotient rounded)
    · cases nearest

end Magnitude

namespace Binary64

theorem units_in_one_positive : 0 < unitsInOne := by
  simp only [unitsInOne, Nat.two_pow_pos]

theorem ratio_is_zero (negative : Bool) (whole : Nat) {unit : Nat} (positive : 0 < unit) :
    (ofRatio negative (whole * unit) 1).isZero = true ↔ whole = 0 := by
  unfold ofRatio
  by_cases zero : whole = 0
  · rw [zero, Nat.zero_mul, Magnitude.nearest_zero]
    exact iff_of_true rfl rfl
  · refine iff_of_false (fun isZero => ?_) zero
    have large : 0 < whole * unit / 1 := by
      rw [Nat.div_one]
      exact Nat.mul_pos (Nat.pos_of_ne_zero zero) positive
    split at isZero
    next size nearest => exact Magnitude.nearest_significand_ne_zero large nearest (beq_iff_eq.mp isZero)
    next => cases isZero

end Binary64

namespace Decimal

theorem coefficient_ne_zero (decimal : Decimal) (size : Magnitude) (reads : decimal.magnitude? = some size)
    (nonzero : size.significand ≠ 0) : decimal.coefficient ≠ 0 := by
  intro none
  have numerator : decimal.ratio.1 = 0 := by
    rw [ratio, none]
    split
    · exact Nat.zero_mul _
    · rfl
  rw [magnitude?, numerator, Nat.zero_mul, Magnitude.nearest_zero] at reads
  cases reads
  exact nonzero rfl

theorem magnitude_shifted (coefficient places : Nat) :
    magnitude? ⟨coefficient * 10 ^ places * 10, -1⟩ = magnitude? ⟨coefficient, places⟩ := by
  have whole : (⟨coefficient, places⟩ : Decimal).ratio = (coefficient * 10 ^ places, 1) := rfl
  have shifted : (⟨coefficient * 10 ^ places * 10, -1⟩ : Decimal).ratio = (coefficient * 10 ^ places * 10, 1 * 10) :=
    rfl
  rw [magnitude?, magnitude?, whole, shifted, Nat.mul_right_comm]
  exact Magnitude.nearest_scaled _ 1 10 (by decide)

theorem to_binary64_finite (negative : Bool) (decimal : Decimal) (size : Magnitude)
    (reads : decimal.magnitude? = some size) (nonzero : decimal.coefficient ≠ 0) (notHuge : decimal.exponent ≤ 400)
    (notTiny : -(400 + decimal.coefficient.log2 : Int) ≤ decimal.exponent) :
    decimal.toBinary64 negative = .finite negative size := by
  rw [toBinary64, if_neg nonzero, if_neg (Int.not_lt.mpr notHuge), if_neg (Int.not_lt.mpr notTiny), reads]

end Decimal

namespace Magnitude

theorem on_grid_reads (size : Magnitude) (tie : Tie) (power : Int) (decimal : Decimal)
    (found : size.onGrid? tie power = some decimal) : decimal.magnitude? = some size ∧ decimal.exponent = power := by
  unfold onGrid? at found
  dsimp only at found
  -- Whatever is taken is one of the two neighbours, and that neighbour was read back.
  split at found
  next floorReads =>
    split at found
    next ceilingReads =>
      split at found
      · cases found; exact ⟨floorReads, rfl⟩
      · split at found
        · cases found; exact ⟨ceilingReads, rfl⟩
        · cases tie with
          | even =>
              cases found
              split
              · exact ⟨floorReads, rfl⟩
              · exact ⟨ceilingReads, rfl⟩
          | up => cases found; exact ⟨ceilingReads, rfl⟩
    next => cases found; exact ⟨floorReads, rfl⟩
  next =>
    split at found
    next ceilingReads => cases found; exact ⟨ceilingReads, rfl⟩
    next => cases found

theorem leading_power_bound (size : Magnitude) : -324 ≤ size.leadingPower := by
  have some_digit : 0 < (digits (size.units * 10 ^ 324 / Binary64.unitsInOne)).length :=
    List.length_pos_iff.mpr Nat.toDigits_ne_nil
  unfold leadingPower
  omega

theorem expansion_reads (size : Magnitude) : size.expansion.magnitude? = some size := by
  -- A variable in the place of 1074 keeps the powers from being computed.
  obtain ⟨places, value⟩ : ∃ places : Nat, places = 1074 := ⟨1074, rfl⟩
  have expansion : size.expansion = ⟨size.units * 5 ^ places, -places⟩ := by
    rw [value]
    rfl
  have units : Binary64.unitsInOne = 2 ^ places := by
    rw [value]
    rfl
  have ratio (coefficient : Nat) : (⟨coefficient, -places⟩ : Decimal).ratio = (coefficient, 10 ^ places) := by
    rw [Decimal.ratio, if_neg (show ¬ (0 : Int) ≤ -places by omega), Int.neg_neg, Int.toNat_natCast]
  have tens : 5 ^ places * 2 ^ places = 10 ^ places := (Nat.mul_pow 5 2 places).symm
  have scaled := nearest_scaled size.units 1 (10 ^ places) (Nat.pow_pos (by decide))
  rw [Nat.one_mul, nearest_units] at scaled
  rw [Decimal.magnitude?, expansion, ratio, units, Nat.mul_assoc, tens, scaled]

theorem expansion_bound (size : Magnitude) (nonzero : size.significand ≠ 0) :
    674 ≤ size.expansion.coefficient.log2 := by
  have positive : 0 < size.units := Nat.mul_pos (Nat.pos_of_ne_zero nonzero) (Nat.two_pow_pos _)
  have large : 2 ^ 674 ≤ size.units * 5 ^ 1074 :=
    calc 2 ^ 674 ≤ 5 ^ 674 := Nat.pow_le_pow_left (by decide) _
      _ ≤ 5 ^ 1074 := Nat.pow_le_pow_right (by decide) (by decide)
      _ ≤ size.units * 5 ^ 1074 := Nat.le_mul_of_pos_left _ positive
  exact (Nat.le_log2 (Nat.ne_of_gt (Nat.lt_of_lt_of_le (Nat.two_pow_pos _) large))).mpr large

theorem shortest_reads (tie : Tie) (size : Magnitude) (nonzero : size.significand ≠ 0) :
    (size.shortest tie).magnitude? = some size ∧
      -(400 + (size.shortest tie).coefficient.log2 : Int) ≤ (size.shortest tie).exponent := by
  unfold shortest
  cases taken : (List.range 18).findSome? fun (more : Nat) =>
      size.onGrid? tie (size.leadingPower + 1 - more) with
  | none =>
      -- No grid was fine enough, which needs no proof to be impossible.
      refine ⟨size.expansion_reads, ?_⟩
      have bound := size.expansion_bound nonzero
      change -(400 + size.expansion.coefficient.log2 : Int) ≤ -1074
      omega
  | some decimal =>
      obtain ⟨more, inRange, found⟩ := List.exists_of_findSome?_eq_some taken
      obtain ⟨reads, exponent⟩ := size.on_grid_reads tie _ decimal found
      refine ⟨reads, ?_⟩
      have bound := size.leading_power_bound
      have few := List.mem_range.mp inRange
      change -(400 + decimal.coefficient.log2 : Int) ≤ decimal.exponent
      omega

end Magnitude

end PageFeedback
