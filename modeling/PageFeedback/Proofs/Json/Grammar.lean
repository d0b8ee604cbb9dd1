import PageFeedback.Proofs.Binary64.Shortest
import PageFeedback.Proofs.Json.Layout
import PageFeedback.Proofs.Json.Text
import PageFeedback.Proofs.Text.Digits

set_option autoImplicit false

namespace PageFeedback.Json

inductive IsFraction : List Char → Prop
  | none : IsFraction []
  | point {places : List Char} (digits : AreDigits places) : IsFraction ('.' :: places)

inductive IsPower : List Char → Prop
  | none : IsPower []
  | unsigned {mark : Char} {places : List Char} (marked : mark = 'e' ∨ mark = 'E') (digits : AreDigits places) :
      IsPower (mark :: places)
  | signed {mark : Char} {places : List Char} (marked : mark = 'e' ∨ mark = 'E') (sign : Char)
      (either : sign = '+' ∨ sign = '-') (digits : AreDigits places) : IsPower (mark :: sign :: places)

inductive IsNumber : List Char → Prop
  | positive {whole fraction power : List Char} (digits : IsWhole whole) (places : IsFraction fraction)
      (tens : IsPower power) : IsNumber (whole ++ (fraction ++ power))
  | negative {whole fraction power : List Char} (digits : IsWhole whole) (places : IsFraction fraction)
      (tens : IsPower power) : IsNumber ('-' :: (whole ++ (fraction ++ power)))

inductive IsQuoted : List Char → Prop
  | nil : IsQuoted []
  | plain {c : Char} {rest : List Char} (notQuote : c ≠ '"') (notBackslash : c ≠ '\\') (notControl : 0x20 ≤ c.toNat)
      (quoted : IsQuoted rest) : IsQuoted (c :: rest)
  | letter {c : Char} {rest : List Char} (known : c ∈ ['"', '\\', '/', 'b', 'f', 'n', 'r', 't'])
      (quoted : IsQuoted rest) : IsQuoted ('\\' :: c :: rest)
  | word {a b c d : Char} {rest : List Char} (hex : ∀ digit ∈ [a, b, c, d], (Text.hexValue? digit).isSome = true)
      (quoted : IsQuoted rest) : IsQuoted ('\\' :: 'u' :: a :: b :: c :: d :: rest)

inductive IsText : List Char → Prop
  | null : IsText ['n', 'u', 'l', 'l']
  | true : IsText ['t', 'r', 'u', 'e']
  | false : IsText ['f', 'a', 'l', 's', 'e']
  | number {chars : List Char} (written : IsNumber chars) : IsText chars
  | string {chars : List Char} (quoted : IsQuoted chars) : IsText ('"' :: (chars ++ ['"']))
  | array {items : List (List Char)} (each : ∀ item ∈ items, IsText item) :
      IsText ('[' :: ([','].intercalate items ++ [']']))
  | object {members : List (List Char × List Char)} (names : ∀ member ∈ members, IsQuoted member.1)
      (each : ∀ member ∈ members, IsText member.2) :
      IsText ('{' :: ([','].intercalate (members.map fun member => '"' :: (member.1 ++ '"' :: ':' :: member.2)) ++ ['}']))

namespace Number

theorem power_written (power : Int) : IsPower ('e' :: (if power < 0 then '-' else '+') :: digits power.natAbs) := by
  have written := digits_are_digits power.natAbs
  split
  · exact .signed (.inl rfl) '-' (.inr rfl) written
  · exact .signed (.inl rfl) '+' (.inl rfl) written

theorem size_chars_written (size : Magnitude) (nonzero : size.significand ≠ 0) :
    ∃ whole fraction power, IsWhole whole ∧ IsFraction fraction ∧ IsPower power ∧
      sizeChars size = whole ++ (fraction ++ power) := by
  have reads := (size.shortest_reads .even nonzero).1
  have positive := Nat.pos_of_ne_zero (Decimal.coefficient_ne_zero _ size reads nonzero)
  unfold sizeChars
  generalize size.shortest .even = shortest at positive
  have written := digits_are_digits shortest.coefficient
  have head := digits_head shortest.coefficient positive
  dsimp only
  generalize digits shortest.coefficient = chars at written head
  obtain ⟨first, more, rfl⟩ := List.exists_cons_of_ne_nil written.present
  obtain ⟨digit, digits⟩ := List.forall_mem_cons.mp written.digit
  have noZero : first ≠ '0' := fun same => head (congrArg some same)
  generalize point : ((first :: more).length : Int) + shortest.exponent = place
  rw [List.length_cons] at point
  split
  next =>
    have zeros := zeros_are_digits shortest.exponent.toNat
    refine ⟨first :: (more ++ List.replicate shortest.exponent.toNat '0'), ['.', '0'], [],
      whole_of_first digit ?_ (.inr noZero), .point ⟨zeros_are_digits 1, by decide⟩, .none, by simp⟩
    exact fun c found => (List.mem_append.mp found).elim (digits c) (zeros c)
  next notWhole =>
    split
    next pointed =>
      -- The point stands behind the first digit or a later one, and before the last.
      simp only [Bool.and_eq_true, decide_eq_true_eq, not_and] at notWhole pointed
      obtain ⟨behind, rfl⟩ : ∃ behind : Nat, place = behind + 1 := ⟨(place - 1).toNat, by omega⟩
      have inside : behind < more.length := by omega
      refine ⟨first :: more.take behind, '.' :: more.drop behind, [], whole_of_first digit ?_ (.inr noZero), .point ⟨?_, ?_⟩,
        .none, ?_⟩
      · exact fun c found => digits c (List.mem_of_mem_take found)
      · exact fun c found => digits c (List.mem_of_mem_drop found)
      · exact fun none => absurd (List.drop_eq_nil_iff.mp none) (Nat.not_le.mpr inside)
      · simp
    next =>
      split
      next =>
        have zeros := zeros_are_digits (-place).toNat
        refine ⟨['0'], '.' :: (List.replicate (-place).toNat '0' ++ first :: more), [],
          whole_of_first rfl (List.forall_mem_nil _) (.inl rfl), .point ⟨?_, by simp⟩, .none, by simp⟩
        exact fun c found => (List.mem_append.mp found).elim (zeros c) (written.digit c)
      next =>
        have alone : IsWhole [first] := whole_of_first digit (fun _ found => nomatch found) (.inl rfl)
        cases more with
        | nil => exact ⟨[first], [], _, alone, .none, power_written (place - 1), rfl⟩
        | cons second rest =>
            exact ⟨[first], '.' :: second :: rest, _, alone, .point ⟨digits, List.cons_ne_nil _ _⟩,
              power_written (place - 1), rfl⟩

theorem chars_written (value : Number) : IsNumber value.chars := by
  cases value with
  | integer n =>
      have whole := whole_of_digits n.value.natAbs
      have number := IsNumber.positive whole .none .none
      have negative := IsNumber.negative whole .none .none
      simp only [List.append_nil] at number negative
      rw [chars]
      split
      · exact negative
      · exact number
  | real negative size =>
      have unsigned : ∃ whole fraction power, IsWhole whole ∧ IsFraction fraction ∧ IsPower power ∧
          (if size.significand = 0 then ['0', '.', '0'] else sizeChars size) = whole ++ (fraction ++ power) := by
        by_cases zero : size.significand = 0
        · rw [if_pos zero]
          exact ⟨['0'], ['.', '0'], [], whole_of_first rfl (List.forall_mem_nil _) (.inl rfl),
            .point ⟨zeros_are_digits 1, by decide⟩, .none, rfl⟩
        · rw [if_neg zero]
          exact size_chars_written size zero
      obtain ⟨whole, fraction, power, digits, places, tens, written⟩ := unsigned
      rw [chars, written]
      cases negative with
      | true =>
          change IsNumber ('-' :: (whole ++ (fraction ++ power)))
          exact .negative digits places tens
      | false =>
          change IsNumber (whole ++ (fraction ++ power))
          exact .positive digits places tens

end Number

theorem escaped_char_quoted (c : Char) {rest : List Char} (quoted : IsQuoted rest) :
    IsQuoted (escapedChar c ++ rest) := by
  unfold escapedChar
  split_ifs with quote backslash backspace formFeed lineFeed carriage tab control
  · exact .letter (by decide) quoted
  · exact .letter (by decide) quoted
  · exact .letter (by decide) quoted
  · exact .letter (by decide) quoted
  · exact .letter (by decide) quoted
  · exact .letter (by decide) quoted
  · exact .letter (by decide) quoted
  · have hex (value : Nat) (small : value < 16) : (Text.hexValue? value.digitChar).isSome = true := by
      rw [hex_value_digit_char value small]
      rfl
    refine .word ?_ quoted
    simp only [List.forall_mem_cons]
    exact ⟨by decide, by decide, hex _ (by omega), hex _ (by omega), fun _ found => nomatch found⟩
  · exact .plain quote backslash (Nat.not_lt.mp control) quoted

theorem escaped_chars_quoted (text : List Char) : IsQuoted (text.flatMap escapedChar) := by
  induction text with
  | nil => exact .nil
  | cons c text ih =>
      rw [List.flatMap_cons]
      exact escaped_char_quoted c ih

theorem string_chars_text (text : List Char) : IsText (stringChars text) := .string (escaped_chars_quoted text)

theorem entries_intercalated (entries : List (List Char)) : entriesFrom [] [] true entries = [','].intercalate entries := by
  have later (entries : List (List Char)) (entry : List Char) :
      entry ++ entriesFrom [] [] false entries = [','].intercalate (entry :: entries) := by
    induction entries generalizing entry with
    | nil => simp [entriesFrom, List.intercalate]
    | cons next entries ih =>
        have goesOn := ih next
        simp_all [entriesFrom, List.intercalate]
  cases entries with
  | nil => rfl
  | cons entry entries => simpa [entriesFrom] using later entries entry

mutual

theorem compact_is_text (value : Json) : IsText value.compact := by
  cases value with
  | null => exact .null
  | bool value =>
      cases value with
      | true => exact .true
      | false => exact .false
  | number value => exact .number value.chars_written
  | string text => exact string_chars_text text.toList
  | array items =>
      rw [compact, compact_items, entries_intercalated]
      exact .array (items_are_texts items)
  | object members =>
      have written : members.map (fun member => memberChars [] member.1 member.2.compact) =
          (members.map fun member => (member.1.toList.flatMap escapedChar, member.2.compact)).map
            fun member => '"' :: (member.1 ++ '"' :: ':' :: member.2) := by
        simp [memberChars, stringChars]
      rw [compact, compact_members, entries_intercalated, written]
      refine .object (List.forall_mem_map.mpr fun member _ => escaped_chars_quoted member.1.toList) ?_
      exact List.forall_mem_map.mpr (members_are_texts members)

theorem items_are_texts (items : List Json) : ∀ text ∈ items.map compact, IsText text := by
  match items with
  | [] => exact fun _ found => nomatch found
  | item :: rest => exact List.forall_mem_cons.mpr ⟨compact_is_text item, items_are_texts rest⟩

theorem members_are_texts (members : List (String × Json)) : ∀ member ∈ members, IsText member.2.compact := by
  match members with
  | [] => exact fun _ found => nomatch found
  | (name, value) :: rest => exact List.forall_mem_cons.mpr ⟨compact_is_text value, members_are_texts rest⟩

end

end PageFeedback.Json
