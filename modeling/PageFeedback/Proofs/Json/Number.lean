import Mathlib.Tactic.SplitIfs
import PageFeedback.Json.Number
import PageFeedback.Proofs.Text.Digits

set_option autoImplicit false

namespace PageFeedback.Json.Number

def EndsNumber (rest : List Char) : Prop := ∀ c ∈ rest.head?, c.isDigit = false ∧ c ≠ '.' ∧ c ≠ 'e' ∧ c ≠ 'E'

theorem take_digits (chars rest : List Char) (start : Nat) (digit : ∀ c ∈ chars, c.isDigit = true)
    (ends : EndsNumber rest) (fits : Nat.ofDigitChars 10 chars start < significandLimit) :
    takeDigits start (chars ++ rest) = (Nat.ofDigitChars 10 chars start, chars.length, rest) := by
  induction chars generalizing start with
  | nil =>
      cases rest with
      | nil => rfl
      | cons next rest =>
          have noDigit := (ends next rfl).1
          rw [List.nil_append, takeDigits]
          simp [noDigit]
  | cons c chars ih =>
      have isDigit := digit c List.mem_cons_self
      rw [Nat.ofDigitChars_cons, Nat.mul_comm] at fits ⊢
      -- What the digits come to is never below what the first of them come to.
      have soFar := Nat.lt_of_le_of_lt (digits_value_ge chars _) fits
      rw [List.cons_append, takeDigits, isDigit, Bool.true_and, if_pos (decide_eq_true soFar),
        ih _ (fun later found => digit later (List.mem_cons_of_mem c found)) fits]
      rfl

theorem read_after_whole (negative : Bool) (significand : Nat) (rest : List Char) (ends : EndsNumber rest) :
    readAfterWhole negative significand rest = .ok (whole negative significand, rest) := by
  cases rest with
  | nil => rfl
  | cons c rest =>
      obtain ⟨noDigit, noPoint, noExponent, noCapital⟩ := ends c rfl
      unfold readAfterWhole
      simp [noDigit, noPoint, noExponent, noCapital]

theorem read_unsigned (negative : Bool) (value : Nat) (rest : List Char) (ends : EndsNumber rest)
    (fits : value < significandLimit) :
    readUnsigned negative (digits value ++ rest) = .ok (whole negative value, rest) := by
  obtain ⟨⟨digit, present⟩, noZero⟩ := whole_of_digits value
  have written := digits_value value
  generalize digits value = chars at digit present noZero written
  subst written
  cases chars with
  | nil => exact absurd rfl present
  | cons c chars =>
      unfold readUnsigned
      dsimp only [List.cons_append]
      by_cases zero : c = '0'
      · -- A zero in front stands alone.
        subst zero
        have alone : chars = [] := by simpa using noZero
        subst alone
        change _ = Except.ok (whole negative 0, rest)
        have after := read_after_whole negative 0 rest ends
        cases rest with
        | nil => exact after
        | cons next rest => simpa [(ends next rfl).1] using after
      · have read := take_digits chars rest (c.toNat - '0'.toNat)
          (fun later found => digit later (List.mem_cons_of_mem c found)) ends
        rw [Nat.ofDigitChars_cons, Nat.mul_zero, Nat.zero_add] at fits ⊢
        rw [if_neg zero, if_pos (digit c List.mem_cons_self), read fits]
        exact read_after_whole negative _ rest ends

theorem whole_of_positive (n : Integer) (positive : ¬ n.value < 0) : whole false n.value.natAbs = .integer n := by
  have most := n.most
  rw [whole, dif_pos ⟨rfl, by omega⟩]
  congr
  omega

theorem whole_of_negative (n : Integer) (negative : n.value < 0) : whole true n.value.natAbs = .integer n := by
  have least := n.least
  rw [whole, dif_neg (fun fits => Bool.false_ne_true fits.1), dif_pos ⟨rfl, by omega, by omega⟩]
  congr
  omega

theorem read_without_sign (chars rest : List Char) (digits : AreDigits chars) :
    read (chars ++ rest) = readUnsigned false (chars ++ rest) := by
  obtain ⟨first, more, rfl⟩ := List.exists_cons_of_ne_nil digits.present
  have noSign : first ≠ '-' := AreDigits.ne_of_digit (digits.digit first List.mem_cons_self) rfl
  rw [List.cons_append]
  unfold read
  split
  next same => exact absurd (List.cons.inj same).1 noSign
  next => rfl

theorem read_integer (n : Integer) (rest : List Char) (ends : EndsNumber rest) :
    read ((Number.integer n).chars ++ rest) = .ok (.integer n, rest) := by
  have fits : n.value.natAbs < significandLimit := by
    have least := n.least
    have most := n.most
    change _ < 2 ^ 64
    omega
  rw [chars]
  split_ifs with negative
  · rw [List.cons_append, read, read_unsigned true _ rest ends fits, whole_of_negative n negative]
  · rw [read_without_sign _ _ (digits_are_digits _), read_unsigned false _ rest ends fits, whole_of_positive n negative]

end PageFeedback.Json.Number
