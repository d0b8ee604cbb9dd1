import Mathlib.Tactic.SplitIfs
import PageFeedback.Json.Text

set_option autoImplicit false

namespace PageFeedback.Json

theorem hex_value_digit_char : ∀ value < 16, Text.hexValue? value.digitChar = some value := by
  decide

theorem hex_word_control (c : Char) (control : c.toNat < 0x20) :
    hexWord? '0' '0' (c.toNat / 16).digitChar (c.toNat % 16).digitChar = some c.toNat := by
  have zero : Text.hexValue? '0' = some 0 := by decide
  have high := hex_value_digit_char (c.toNat / 16) (by omega)
  have low := hex_value_digit_char (c.toNat % 16) (by omega)
  simp only [hexWord?, zero, high, low]
  exact congrArg some (by omega)

theorem read_control_escape (c : Char) (rest : List Char) (control : c.toNat < 0x20) :
    readString ('\\' :: 'u' :: '0' :: '0' :: (c.toNat / 16).digitChar :: (c.toNat % 16).digitChar :: rest) =
      prepend c (readString rest) := by
  have word := hex_word_control c control
  -- A control is far below the surrogates, so the escape stands alone.
  have trailing : isTrailingSurrogate c.toNat = false := by
    simp only [isTrailingSurrogate, Bool.and_eq_false_iff, decide_eq_false_iff_not]
    omega
  have leading : isLeadingSurrogate c.toNat = false := by
    simp only [isLeadingSurrogate, Bool.and_eq_false_iff, decide_eq_false_iff_not]
    omega
  rw [readString.eq_def]
  simp [plainEscape?, word, trailing, leading]

theorem read_escaped_char (c : Char) (rest : List Char) :
    readString (escapedChar c ++ rest) = prepend c (readString rest) := by
  unfold escapedChar
  split_ifs with quote backslash backspace formFeed lineFeed carriage tab control
  · subst quote; rfl
  · subst backslash; rfl
  · subst backspace; rfl
  · subst formFeed; rfl
  · subst lineFeed; rfl
  · subst carriage; rfl
  · subst tab; rfl
  · exact read_control_escape c rest control
  · rw [List.singleton_append, readString.eq_def]
    simp only [if_neg quote, if_neg backslash, if_neg control]

theorem read_escaped_chars (text rest : List Char) :
    readString (text.flatMap escapedChar ++ '"' :: rest) = .ok (text, rest) := by
  induction text with
  | nil => rw [List.flatMap_nil, List.nil_append, readString.eq_def]; rfl
  | cons c text ih =>
      rw [List.flatMap_cons, List.append_assoc, read_escaped_char, ih]
      rfl

theorem string_chars_append (text rest : List Char) :
    stringChars text ++ rest = '"' :: (text.flatMap escapedChar ++ '"' :: rest) := by
  simp [stringChars]

end PageFeedback.Json
