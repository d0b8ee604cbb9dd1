import PageFeedback.Proofs.Toml.Number
import PageFeedback.Proofs.Toml.Text
import PageFeedback.Toml.Reader

set_option autoImplicit false

namespace PageFeedback.Toml

theorem read_word (depth : Nat) {word : List Char} (isWord : IsWord word) {value : Toml}
    (known : ofWord? word = some value) (unread : List Char) :
    readValue depth (word ++ '\n' :: unread) = some (value, '\n' :: unread) := by
  have wordChars : ∀ c ∈ word, isWordChar c = true := fun c found => (isWord.unquoted c found).1
  have ends : (word ++ '\n' :: unread).takeWhile isWordChar = word := by
    rw [List.takeWhile_append_of_pos wordChars]
    exact List.append_nil _
  have rest : (word ++ '\n' :: unread).dropWhile isWordChar = '\n' :: unread :=
    List.dropWhile_append_of_pos wordChars
  have scalar : readScalar (word ++ '\n' :: unread) = some (value, '\n' :: unread) := by
    unfold readScalar
    simp only [ends, rest, known]
    -- A time of day only follows a date after a space.
    rcases date? word with _ | _ | _ <;> rfl
  cases word with
  | nil => exact absurd rfl isWord.present
  | cons c word =>
      obtain ⟨wordChar, noDouble, noSingle⟩ := isWord.unquoted c List.mem_cons_self
      have noBracket : c ≠ '[' := by
        rintro rfl
        cases wordChar
      have noBrace : c ≠ '{' := by
        rintro rfl
        cases wordChar
      rw [List.cons_append, readValue.eq_def]
      simp only [if_neg noDouble, if_neg noSingle, if_neg noBracket, if_neg noBrace]
      exact scalar

theorem read_quoted_value (depth : Nat) (chars text unread : List Char)
    (known : readQuoted chars = some (text, unread)) :
    readValue depth chars = some (.string (String.ofList text), unread) := by
  unfold readQuoted at known
  split at known
  · rw [readValue.eq_def]
    simp only [if_true, known]
    rfl
  · rw [readValue.eq_def]
    simp only [if_true, known]
    rfl
  · cases known

theorem read_scalar_chars (depth : Nat) (scalar : Scalar) (unread : List Char) :
    readValue depth (scalar.chars ++ '\n' :: unread) = some (scalar.toToml, '\n' :: unread) := by
  cases scalar with
  | string text =>
      have read := read_quoted_value depth _ _ _ (read_string_chars text.toList unread)
      rwa [String.ofList_toList] at read
  | integer value =>
      obtain ⟨isWord, known⟩ := integer_word value
      exact read_word depth isWord known unread
  | float value =>
      obtain ⟨isWord, known⟩ := float_word value
      exact read_word depth isWord known unread
  | boolean value => cases value <;> exact read_word depth (word_of_all (List.cons_ne_nil _ _) rfl) rfl unread

end PageFeedback.Toml
