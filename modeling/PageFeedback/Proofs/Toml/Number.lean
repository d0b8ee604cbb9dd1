import Mathlib.Data.List.TakeWhile
import PageFeedback.Proofs.Binary64.Shortest
import PageFeedback.Proofs.Text.Digits
import PageFeedback.Toml.Printer
import PageFeedback.Toml.Scalar

set_option autoImplicit false

namespace PageFeedback.Toml

theorem grouped_of_no_underscore (chars : List Char) (present : chars ≠ []) (none : '_' ∉ chars) :
    isGrouped chars = true := by
  fun_induction isGrouped chars with
  | case1 => exact absurd rfl present
  | case2 => exact absurd List.mem_cons_self none
  | case3 => rfl
  | case4 c d rest => exact absurd (List.mem_cons_of_mem _ List.mem_cons_self) none
  | case5 c rest _ more _ ih => exact ih more fun found => none (List.mem_cons_of_mem c found)

theorem ungrouped_of_no_underscore (chars : List Char) (present : chars ≠ []) (none : '_' ∉ chars) :
    ungrouped? chars = .some chars := by
  rw [ungrouped?, if_pos (grouped_of_no_underscore chars present none), List.filter_eq_self.mpr]
  intro c found
  exact decide_eq_true fun same => none (same ▸ found)

theorem digit_run_of_digits {chars : List Char} (digits : AreDigits chars) : digitRun? chars = some chars := by
  rw [digitRun?, ungrouped_of_no_underscore chars digits.present (digits.not_mem '_' rfl)]
  exact Option.filter_some_pos (List.all_eq_true.mpr digits.digit)

theorem whole_digits_of_whole {chars : List Char} (whole : IsWhole chars) : wholeDigits? chars = some chars := by
  rw [wholeDigits?, digit_run_of_digits whole.toAreDigits]
  refine Option.filter_some_pos ?_
  simpa using whole.noZero

def isNumberChar (c : Char) : Bool := c.isDigit || c = '-' || c = '.'

theorem number_char_ne (c d : Char) (number : isNumberChar c = true) (other : isNumberChar d = false) : c ≠ d := by
  intro same
  rw [same, other] at number
  cases number

structure IsWord (chars : List Char) : Prop where
  present : chars ≠ []
  unquoted : ∀ c ∈ chars, isWordChar c = true ∧ c ≠ '"' ∧ c ≠ '\x27'

theorem word_of_all {chars : List Char} (present : chars ≠ [])
    (all : chars.all (fun c => isWordChar c && c ≠ '"' && c ≠ '\x27') = true) : IsWord chars := by
  refine ⟨present, fun c found => ?_⟩
  simpa [and_assoc] using List.all_eq_true.mp all c found

theorem word_of_number_chars {chars : List Char} (present : chars ≠ [])
    (number : ∀ c ∈ chars, isNumberChar c = true) : IsWord chars := by
  refine ⟨present, fun c found => ?_⟩
  have apart (d : Char) (other : isNumberChar d = false) : c ≠ d := number_char_ne c d (number c found) other
  refine ⟨?_, apart '"' rfl, apart '\x27' rfl⟩
  simp [isWordChar, apart ' ' rfl, apart '\t' rfl, apart '\r' rfl, apart '\n' rfl, apart '=' rfl, apart ',' rfl,
    apart '[' rfl, apart ']' rfl, apart '{' rfl, apart '}' rfl, apart '#' rfl]

theorem number_chars_of_digits {chars : List Char} (digits : AreDigits chars) : ∀ c ∈ chars, isNumberChar c = true := by
  intro c found
  rw [isNumberChar, digits.digit c found]
  rfl

theorem integer_of_no_base (chars : List Char) (number : ∀ c ∈ chars, isNumberChar c = true) :
    integer? chars = decimalInteger? (splitSign chars).1 (splitSign chars).2 := by
  have second (mark : Char) (rest : List Char) (other : isNumberChar mark = false) : chars ≠ '0' :: mark :: rest := by
    intro same
    rw [same] at number
    exact number_char_ne mark mark (number mark (by simp)) other rfl
  unfold integer?
  split
  · exact absurd rfl (second 'x' _ rfl)
  · exact absurd rfl (second 'o' _ rfl)
  · exact absurd rfl (second 'b' _ rfl)
  · rfl

theorem split_sign_signed (negative : Bool) (chars : List Char) (unsigned : ∀ c ∈ chars.head?, c ≠ '-' ∧ c ≠ '+') :
    splitSign (Binary64.signChars negative ++ chars) = (negative, chars) := by
  cases negative with
  | true => rfl
  | false =>
      change splitSign chars = _
      unfold splitSign
      split
      · exact absurd rfl (unsigned '-' rfl).1
      · exact absurd rfl (unsigned '+' rfl).2
      · rfl

theorem unsigned_of_digits {chars : List Char} (digits : AreDigits chars) :
    ∀ c ∈ chars.head?, c ≠ '-' ∧ c ≠ '+' := by
  intro c found
  have digit := digits.digit c (List.mem_of_head? found)
  exact ⟨AreDigits.ne_of_digit digit rfl, AreDigits.ne_of_digit digit rfl⟩

theorem not_truth_value (chars : List Char) (number : ∀ c ∈ chars, isNumberChar c = true) :
    chars ≠ ['t', 'r', 'u', 'e'] ∧ chars ≠ ['f', 'a', 'l', 's', 'e'] := by
  constructor <;> intro same <;> rw [same] at number <;> exact absurd (number 'e' (by simp)) (by decide)

theorem integer_word (value : Nat) : IsWord (digits value) ∧ ofWord? (digits value) = some (.integer value) := by
  have whole := whole_of_digits value
  have number := number_chars_of_digits whole.toAreDigits
  have unsigned := split_sign_signed false (digits value) (unsigned_of_digits whole.toAreDigits)
  have read : integer? (digits value) = some (.integer value) := by
    change splitSign (digits value) = _ at unsigned
    rw [integer_of_no_base _ number, unsigned, decimalInteger?, whole_digits_of_whole whole]
    change some (Toml.integer (Nat.ofDigitChars 10 (digits value) 0)) = _
    rw [digits_value]
  refine ⟨word_of_number_chars whole.present number, ?_⟩
  rw [ofWord?, if_neg (not_truth_value _ number).1, if_neg (not_truth_value _ number).2, read]

theorem not_integer_of_point (negative : Bool) (chars : List Char) (number : ∀ c ∈ chars, isNumberChar c = true)
    (point : '.' ∈ chars) : decimalInteger? negative chars = none := by
  have noUnderscore : '_' ∉ chars := fun found => number_char_ne '_' '_' (number '_' found) rfl rfl
  -- The point stands among the digits, and there is no underscore that would mark a number.
  have noDigits : wholeDigits? chars = none := by
    have notAll : ¬ chars.all Char.isDigit = true := by
      intro all
      exact absurd (List.all_eq_true.mp all '.' point) (by decide)
    have noRun : digitRun? chars = none := by
      rw [digitRun?, ungrouped_of_no_underscore chars (List.ne_nil_of_mem point) noUnderscore]
      exact Option.filter_some_neg (Bool.eq_false_iff.mpr notAll)
    rw [wholeDigits?, noRun]
    rfl
  have noMark : (chars.dropWhile Char.isDigit).head? ≠ some '_' := by
    intro found
    exact noUnderscore ((List.dropWhile_suffix _).subset (List.mem_of_head? found))
  rw [decimalInteger?, noDigits]
  simp [noMark]

structure IsPointed (whole fraction : List Char) : Prop where
  whole : IsWhole whole
  fraction : AreDigits fraction

namespace IsPointed

variable {whole fraction : List Char}

theorem number_chars (pointed : IsPointed whole fraction) :
    ∀ c ∈ whole ++ '.' :: fraction, isNumberChar c = true := by
  intro c found
  cases List.mem_append.mp found with
  | inl inWhole => exact number_chars_of_digits pointed.whole.toAreDigits c inWhole
  | inr rest =>
      cases List.mem_cons.mp rest with
      | inl same =>
          rw [same]
          rfl
      | inr inFraction => exact number_chars_of_digits pointed.fraction c inFraction

theorem unsigned (pointed : IsPointed whole fraction) :
    ∀ c ∈ (whole ++ '.' :: fraction).head?, c ≠ '-' ∧ c ≠ '+' := by
  intro c found
  rw [List.head?_append, Option.or_of_isSome (by simp [pointed.whole.present])] at found
  exact unsigned_of_digits pointed.whole.toAreDigits c found

theorem decimal (pointed : IsPointed whole fraction) :
    decimal? (whole ++ '.' :: fraction) =
      some ⟨Nat.ofDigitChars 10 (whole ++ fraction) 0, -fraction.length⟩ := by
  have run {chars : List Char} (digits : AreDigits chars) : ∀ c ∈ chars, isRunChar c = true := by
    intro c found
    rw [isRunChar, digits.digit c found]
    rfl
  have wholeRun : (whole ++ '.' :: fraction).takeWhile isRunChar = whole := by
    rw [List.takeWhile_append_of_pos (run pointed.whole.toAreDigits)]
    exact List.append_nil _
  have afterWhole : (whole ++ '.' :: fraction).dropWhile isRunChar = '.' :: fraction :=
    List.dropWhile_append_of_pos (run pointed.whole.toAreDigits)
  have fractionRun : fraction.takeWhile isRunChar = fraction := List.takeWhile_eq_self_iff.mpr (run pointed.fraction)
  have afterFraction : fraction.dropWhile isRunChar = [] := List.dropWhile_eq_nil_iff.mpr (run pointed.fraction)
  rw [decimal?, wholeRun, afterWhole, whole_digits_of_whole pointed.whole]
  simp only [fractionRun, afterFraction, digit_run_of_digits pointed.fraction]
  simp [exponent?]

theorem word (pointed : IsPointed whole fraction) (negative : Bool) (size : Magnitude)
    (reads : Decimal.toBinary64 negative ⟨Nat.ofDigitChars 10 (whole ++ fraction) 0, -fraction.length⟩ =
      .finite negative size) :
    let chars := Binary64.signChars negative ++ (whole ++ '.' :: fraction)
    IsWord chars ∧ ofWord? chars = some (.float (.finite negative size)) := by
  intro chars
  have number : ∀ c ∈ chars, isNumberChar c = true := by
    intro c found
    cases List.mem_append.mp found with
    | inl sign =>
        cases negative with
        | true =>
            rw [List.mem_singleton.mp sign]
            rfl
        | false => exact nomatch sign
    | inr rest => exact pointed.number_chars c rest
  have split : splitSign chars = (negative, whole ++ '.' :: fraction) := split_sign_signed negative _ pointed.unsigned
  have noInteger : integer? chars = none := by
    rw [integer_of_no_base _ number, split]
    exact not_integer_of_point negative _ pointed.number_chars (by simp)
  have notWord (letters : List Char) (last : 'n' ∈ letters) : whole ++ '.' :: fraction ≠ letters := by
    intro same
    exact absurd (pointed.number_chars 'n' (same ▸ last)) (by decide)
  refine ⟨word_of_number_chars (List.append_ne_nil_of_right_ne_nil _ (by simp)) number, ?_⟩
  rw [ofWord?, if_neg (not_truth_value _ number).1, if_neg (not_truth_value _ number).2, noInteger]
  simp only [float?, split]
  rw [if_neg (notWord _ (by simp)), if_neg (notWord _ (by simp)), pointed.decimal, Option.map_some, reads]

end IsPointed

theorem no_point_of_digits {chars : List Char} (digits : AreDigits chars) : chars.contains '.' = false := by
  simpa using digits.not_mem '.' rfl

theorem positional_whole (coefficient places : Nat) (positive : coefficient ≠ 0) :
    let whole := Decimal.positional ⟨coefficient, places⟩
    IsWhole whole ∧ Nat.ofDigitChars 10 whole 0 = coefficient * 10 ^ places := by
  have written : Decimal.positional ⟨coefficient, places⟩ = digits coefficient ++ List.replicate places '0' := rfl
  have noZero : (digits coefficient ++ List.replicate places '0').head? ≠ some '0' := by
    rw [List.head?_append, Option.or_of_isSome (by simp [(digits_are_digits coefficient).present])]
    exact digits_head coefficient (Nat.pos_of_ne_zero positive)
  rw [written]
  refine ⟨⟨(digits_are_digits coefficient).append (zeros_are_digits places), .inr noZero⟩, ?_⟩
  rw [Nat.ofDigitChars_append, digits_value, Nat.ofDigitChars_replicate_zero, Nat.mul_comm]

theorem positional_pointed (coefficient places : Nat) (positive : coefficient ≠ 0) (some : 0 < places) :
    ∃ whole fraction, IsPointed whole fraction ∧
      Decimal.positional ⟨coefficient, -places⟩ = whole ++ '.' :: fraction ∧
      Nat.ofDigitChars 10 (whole ++ fraction) 0 = coefficient ∧ fraction.length = places := by
  have number := digits_are_digits coefficient
  have exponent : (-(-places : Int)).toNat = places := by rw [Int.neg_neg, Int.toNat_natCast]
  unfold Decimal.positional
  dsimp only
  rw [if_neg (show ¬ (0 : Int) ≤ -places by omega), exponent]
  by_cases inside : places < (digits coefficient).length
  · -- The point parts the digits.
    rw [if_pos inside]
    have wholeLength : 0 < (digits coefficient).length - places := Nat.sub_pos_of_lt inside
    refine ⟨_, _, ⟨⟨⟨?_, ?_⟩, .inr ?_⟩, ?_, ?_⟩, rfl, ?_, ?_⟩
    · exact fun c found => number.digit c (List.mem_of_mem_take found)
    · exact fun none => by simp [number.present] at none; omega
    · rw [List.head?_take, if_neg (Nat.ne_of_gt wholeLength)]
      exact digits_head coefficient (Nat.pos_of_ne_zero positive)
    · exact fun c found => number.digit c (List.mem_of_mem_drop found)
    · exact fun none => by simp at none; omega
    · rw [List.take_append_drop, digits_value]
    · rw [List.length_drop]
      omega
  · -- All digits stand after the point, and zeros fill up the places before them.
    rw [if_neg inside]
    refine ⟨['0'], List.replicate (places - (digits coefficient).length) '0' ++ digits coefficient,
      ⟨⟨⟨?_, List.cons_ne_nil _ _⟩, .inl rfl⟩, ?_, ?_⟩, rfl, ?_, ?_⟩
    · exact zeros_are_digits 1
    · exact fun c found => (List.mem_append.mp found).elim (zeros_are_digits _ c) (number.digit c)
    · exact fun none => number.present (List.append_eq_nil_iff.mp none).2
    · rw [← List.append_assoc, show ['0'] = List.replicate 1 '0' from rfl, List.replicate_append_replicate,
        Nat.ofDigitChars_append, Nat.ofDigitChars_replicate_zero, Nat.mul_zero, digits_value]
    · rw [List.length_append, List.length_replicate]
      omega

theorem float_chars_pointed (negative : Bool) (size : Magnitude) :
    ∃ whole fraction, IsPointed whole fraction ∧
      floatChars (.finite negative size) = Binary64.signChars negative ++ (whole ++ '.' :: fraction) ∧
      Decimal.toBinary64 negative ⟨Nat.ofDigitChars 10 (whole ++ fraction) 0, -fraction.length⟩ =
        .finite negative size := by
  have signless (chars : List Char) :
      (Binary64.signChars negative ++ chars).contains '.' = chars.contains '.' := by
    cases negative <;> rfl
  let decimal := Binary64.plain.decimalOf size
  have plain : Binary64.plain (.finite negative size) = Binary64.signChars negative ++ decimal.positional := rfl
  have oneZero : AreDigits ['0'] := ⟨zeros_are_digits 1, List.cons_ne_nil _ _⟩
  rw [floatChars, plain, signless]
  by_cases zero : size.significand = 0
  · have decimalZero : decimal = ⟨0, 0⟩ := if_pos zero
    rw [decimalZero, size.eq_zero_of_significand zero]
    exact ⟨['0'], ['0'], ⟨⟨oneZero, .inl rfl⟩, oneZero⟩, by cases negative <;> rfl, rfl⟩
  · have shortest : decimal = size.shortest .up := if_neg zero
    obtain ⟨reads, bound⟩ := size.shortest_reads .up zero
    rw [← shortest] at reads bound
    have positive := decimal.coefficient_ne_zero size reads zero
    clear_value decimal
    obtain ⟨coefficient, exponent⟩ := decimal
    cases exponent with
    | ofNat places =>
        -- A point and a zero are added, and the zero does not change the size that is read.
        obtain ⟨whole, value⟩ := positional_whole coefficient places positive
        change ∃ _ _, _ ∧ (if (Decimal.positional ⟨coefficient, places⟩).contains '.' then _ else _) = _ ∧ _
        refine ⟨_, ['0'], ⟨whole, oneZero⟩, ?_, ?_⟩
        · rw [if_neg (by rw [no_point_of_digits whole.toAreDigits]; exact Bool.false_ne_true)]
          exact List.append_assoc _ _ _
        · have one : Nat.ofDigitChars 10 ['0'] (coefficient * 10 ^ places) = coefficient * 10 ^ places * 10 :=
            (Nat.ofDigitChars_replicate_zero (n := 1)).trans (Nat.mul_comm _ _)
          have sameSize : Decimal.magnitude? ⟨coefficient * 10 ^ places * 10, -1⟩ = some size :=
            (Decimal.magnitude_shifted coefficient places).trans reads
          rw [Nat.ofDigitChars_append, value, one]
          refine Decimal.to_binary64_finite negative _ size sameSize ?_ (show (-1 : Int) ≤ 400 by decide) ?_
          · exact Decimal.coefficient_ne_zero _ size sameSize zero
          · change -(400 + _ : Int) ≤ -1
            omega
    | negSucc places =>
        obtain ⟨whole, fraction, pointed, written, value, length⟩ :=
          positional_pointed coefficient (places + 1) positive (Nat.succ_pos _)
        change Decimal.positional ⟨coefficient, Int.negSucc places⟩ = _ at written
        refine ⟨whole, fraction, pointed, ?_, ?_⟩
        · rw [written, if_pos (by simp)]
        · rw [value, length]
          exact Decimal.to_binary64_finite negative _ size reads positive (show -((places + 1 : Nat) : Int) ≤ 400 by omega)
            bound

theorem float_word (value : Binary64) :
    IsWord (floatChars value) ∧ ofWord? (floatChars value) = some (.float value) := by
  cases value with
  | nan => exact ⟨word_of_all (List.cons_ne_nil _ _) rfl, rfl⟩
  | infinity negative => cases negative <;> exact ⟨word_of_all (List.cons_ne_nil _ _) rfl, rfl⟩
  | finite negative size =>
      obtain ⟨whole, fraction, pointed, written, reads⟩ := float_chars_pointed negative size
      rw [written]
      exact pointed.word negative size reads

end PageFeedback.Toml
