import PageFeedback.Binary64.Decimal

set_option autoImplicit false

namespace PageFeedback

structure AreDigits (chars : List Char) : Prop where
  digit : ∀ c ∈ chars, c.isDigit = true
  present : chars ≠ []

namespace AreDigits

variable {chars more : List Char}

theorem append (digits : AreDigits chars) (moreDigits : ∀ c ∈ more, c.isDigit = true) : AreDigits (chars ++ more) where
  digit c found := (List.mem_append.mp found).elim (digits.digit c) (moreDigits c)
  present none := digits.present (List.append_eq_nil_iff.mp none).1

theorem ne_of_digit {c d : Char} (digit : c.isDigit = true) (other : d.isDigit = false) : c ≠ d := by
  intro same
  rw [same, other] at digit
  cases digit

theorem not_mem (digits : AreDigits chars) (c : Char) (other : c.isDigit = false) : c ∉ chars :=
  fun found => ne_of_digit (digits.digit c found) other rfl

end AreDigits

theorem zeros_are_digits (count : Nat) : ∀ c ∈ List.replicate count '0', c.isDigit = true := by
  intro c found
  rw [List.eq_of_mem_replicate found]
  rfl

theorem digits_are_digits (value : Nat) : AreDigits (digits value) where
  digit _ found := Nat.isDigit_of_mem_toDigits (by decide) (by decide) found
  present := Nat.toDigits_ne_nil

theorem digits_value (value : Nat) : Nat.ofDigitChars 10 (digits value) 0 = value := Nat.ofDigitChars_ten_toDigits

theorem digits_head (value : Nat) (positive : 0 < value) : (digits value).head? ≠ some '0' := by
  induction value using Nat.strongRecOn with
  | ind value ih =>
      by_cases small : value < 10
      · have one : ∀ n < 10, 0 < n → Nat.digitChar n ≠ '0' := by decide
        rw [digits, Nat.toDigits_of_lt_base small, List.head?_cons]
        exact fun same => one value small positive (Option.some.inj same)
      · rw [digits, Nat.toDigits_of_base_le (by decide) (Nat.not_lt.mp small),
          List.head?_append, Option.or_of_isSome (by simp [Nat.toDigits_ne_nil])]
        -- The first digit of a number is that of its tenth part.
        exact ih (value / 10) (by omega) (by omega)

structure IsWhole (chars : List Char) : Prop extends AreDigits chars where
  noZero : chars.length = 1 ∨ chars.head? ≠ some '0'

theorem whole_of_digits (value : Nat) : IsWhole (digits value) where
  toAreDigits := digits_are_digits value
  noZero := by
    by_cases positive : 0 < value
    · exact .inr (digits_head value positive)
    · rw [Nat.eq_zero_of_not_pos positive]
      exact .inl rfl

theorem whole_of_first {first : Char} {more : List Char} (digit : first.isDigit = true)
    (digits : ∀ c ∈ more, c.isDigit = true) (noZero : more = [] ∨ first ≠ '0') : IsWhole (first :: more) where
  digit := List.forall_mem_cons.mpr ⟨digit, digits⟩
  present := List.cons_ne_nil _ _
  noZero := noZero.imp (fun alone => by rw [alone]; rfl) (fun other same => other (Option.some.inj same))

theorem digits_value_ge (chars : List Char) (start : Nat) : start ≤ Nat.ofDigitChars 10 chars start := by
  induction chars generalizing start with
  | nil => exact Nat.le_refl start
  | cons c chars ih =>
      rw [Nat.ofDigitChars_cons]
      exact Nat.le_trans (by omega) (ih _)

end PageFeedback
