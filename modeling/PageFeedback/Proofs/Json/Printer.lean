import Mathlib.Tactic.SplitIfs
import PageFeedback.Json.Printer
import PageFeedback.Proofs.Text.Digits

set_option autoImplicit false

namespace PageFeedback.Json

theorem digits_one_line (value : Nat) : '\n' ∉ digits value := (digits_are_digits value).not_mem '\n' rfl

theorem digit_char_one_line : ∀ value < 16, '\n' ≠ value.digitChar := by decide

theorem escaped_char_one_line (c : Char) : '\n' ∉ escapedChar c := by
  unfold escapedChar
  split_ifs with quote backslash backspace formFeed lineFeed carriage tab control
  · decide
  · decide
  · decide
  · decide
  · decide
  · decide
  · decide
  · have high := digit_char_one_line (c.toNat / 16) (by omega)
    have low := digit_char_one_line (c.toNat % 16) (by omega)
    simp [high, low]
  · simpa using Ne.symm lineFeed

theorem string_chars_one_line (text : List Char) : '\n' ∉ stringChars text := by
  simp [stringChars, escaped_char_one_line]

namespace Number

theorem size_chars_one_line (size : Magnitude) : '\n' ∉ sizeChars size := by
  unfold sizeChars
  generalize size.shortest .even = shortest
  have written := digits_one_line shortest.coefficient
  have beginning (count : Nat) : '\n' ∉ (digits shortest.coefficient).take count :=
    fun found => written (List.mem_of_mem_take found)
  have ending (count : Nat) : '\n' ∉ (digits shortest.coefficient).drop count :=
    fun found => written (List.mem_of_mem_drop found)
  have power (value : Nat) := digits_one_line value
  dsimp only
  split_ifs
  · simp [written]
  · simp [beginning, ending]
  · simp [written]
  -- The first digit, a point before more of them, and a power of either sign.
  all_goals split <;> simp_all

theorem chars_one_line (value : Number) : '\n' ∉ value.chars := by
  cases value with
  | integer n =>
      rw [chars]
      split_ifs <;> simp [digits_one_line]
  | real negative size =>
      rw [chars, List.mem_append, not_or]
      constructor
      · cases negative <;> decide
      · by_cases zero : size.significand = 0
        · rw [if_pos zero]
          decide
        · rw [if_neg zero]
          exact size_chars_one_line size

theorem size_chars_ne_nil (size : Magnitude) : sizeChars size ≠ [] := by
  unfold sizeChars
  dsimp only
  split_ifs <;> simp

theorem chars_ne_nil (value : Number) : value.chars ≠ [] := by
  cases value with
  | integer n =>
      have written : digits n.value.natAbs ≠ [] := Nat.toDigits_ne_nil
      rw [chars]
      split_ifs <;> simp [written]
  | real negative size =>
      rw [chars]
      refine List.append_ne_nil_of_right_ne_nil _ ?_
      by_cases zero : size.significand = 0
      · rw [if_pos zero]
        decide
      · rw [if_neg zero]
        exact size_chars_ne_nil size

end Number

theorem compact_ne_nil (value : Json) : value.compact ≠ [] := by
  cases value with
  | null => simp [compact]
  | bool value => cases value <;> simp [compact]
  | number value => simpa [compact] using value.chars_ne_nil
  | string text => simp [compact, stringChars]
  | array items => simp [compact]
  | object members => simp [compact]

theorem compact_text_ne_empty (value : Json) : value.compactText ≠ "" := by
  intro empty
  have chars := congrArg String.toList empty
  rw [compactText, String.toList_ofList] at chars
  exact value.compact_ne_nil chars

mutual

theorem compact_one_line (value : Json) : '\n' ∉ value.compact := by
  cases value with
  | null => decide
  | bool value => cases value <;> decide
  | number value => exact value.chars_one_line
  | string text => exact string_chars_one_line text.toList
  | array items => simp [compact, items_one_line items]
  | object members => simp [compact, members_one_line members]

theorem items_one_line (items : List Json) : '\n' ∉ compactItems items := by
  match items with
  | [] => simp [compactItems]
  | [last] => exact compact_one_line last
  | item :: next :: rest => simp [compactItems, compact_one_line item, items_one_line (next :: rest)]

theorem members_one_line (members : List (String × Json)) : '\n' ∉ compactMembers members := by
  match members with
  | [] => simp [compactMembers]
  | [(name, last)] => simp [compactMembers, string_chars_one_line, compact_one_line last]
  | (name, value) :: next :: rest =>
      simp [compactMembers, string_chars_one_line, compact_one_line value, members_one_line (next :: rest)]

end

end PageFeedback.Json
