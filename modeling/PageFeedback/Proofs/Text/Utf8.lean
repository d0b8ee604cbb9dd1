import Mathlib.Tactic.SplitIfs
import PageFeedback.Text.Utf8

set_option autoImplicit false

namespace PageFeedback.Text

theorem byte_to_nat {value : Nat} (fits : value < 256) : (UInt8.ofNat value).toNat = value :=
  UInt8.toNat_ofNat_of_lt' fits

theorem continuation_byte (bits : Nat) :
    isContinuation (UInt8.ofNat (bits % 64 + 0x80)) = true ∧ payload (UInt8.ofNat (bits % 64 + 0x80)) = bits % 64 := by
  have value : (UInt8.ofNat (bits % 64 + 0x80)).toNat = bits % 64 + 0x80 := byte_to_nat (by omega)
  constructor
  · simp only [isContinuation, Bool.and_eq_true, decide_eq_true_eq, UInt8.le_iff_toNat_le, value]
    exact ⟨Nat.le_add_left _ _, show _ ≤ 191 by omega⟩
  · rw [payload, value]
    omega

theorem follows_three (code : Nat) (large : 0x7FF < code) (fits : code ≤ 0xFFFF)
    (valid : code < 0xD800 ∨ 0xDFFF < code) :
    followsThree (UInt8.ofNat (code / 4096 % 16 + 0xE0)) (UInt8.ofNat (code / 64 % 64 + 0x80)) = true := by
  have first : (UInt8.ofNat (code / 4096 % 16 + 0xE0)).toNat = code / 4096 % 16 + 0xE0 := byte_to_nat (by omega)
  have second : (UInt8.ofNat (code / 64 % 64 + 0x80)).toNat = code / 64 % 64 + 0x80 := byte_to_nat (by omega)
  unfold followsThree
  simp only [← UInt8.toNat_inj, first]
  split
  next lowest =>
    simp only [Bool.and_eq_true, decide_eq_true_eq, UInt8.le_iff_toNat_le, second]
    change _ = 224 at lowest
    exact ⟨show 160 ≤ _ by omega, show _ ≤ 191 by omega⟩
  · split
    next nearSurrogates =>
      simp only [Bool.and_eq_true, decide_eq_true_eq, UInt8.le_iff_toNat_le, second]
      change _ = 237 at nearSurrogates
      exact ⟨show 128 ≤ _ by omega, show _ ≤ 159 by omega⟩
    · exact (continuation_byte (code / 64)).1

theorem follows_four (code : Nat) (large : 0xFFFF < code) (valid : code < 0x110000) :
    followsFour (UInt8.ofNat (code / 262144 % 8 + 0xF0)) (UInt8.ofNat (code / 4096 % 64 + 0x80)) = true := by
  have first : (UInt8.ofNat (code / 262144 % 8 + 0xF0)).toNat = code / 262144 % 8 + 0xF0 := byte_to_nat (by omega)
  have second : (UInt8.ofNat (code / 4096 % 64 + 0x80)).toNat = code / 4096 % 64 + 0x80 := byte_to_nat (by omega)
  unfold followsFour
  simp only [← UInt8.toNat_inj, first]
  split
  next lowest =>
    simp only [Bool.and_eq_true, decide_eq_true_eq, UInt8.le_iff_toNat_le, second]
    change _ = 240 at lowest
    exact ⟨show 144 ≤ _ by omega, show _ ≤ 191 by omega⟩
  · split
    next highest =>
      simp only [Bool.and_eq_true, decide_eq_true_eq, UInt8.le_iff_toNat_le, second]
      change _ = 244 at highest
      exact ⟨show 128 ≤ _ by omega, show _ ≤ 143 by omega⟩
    · exact (continuation_byte (code / 4096)).1

theorem decode_char (c : Char) (rest : List UInt8) (chars : List Char) (index : Nat)
    (decoded : ∀ later, decodeFrom later rest = .ok chars) :
    decodeFrom index (String.utf8EncodeChar c ++ rest) = .ok (c :: chars) := by
  have valid : c.val.toNat < 0xD800 ∨ 0xDFFF < c.val.toNat ∧ c.val.toNat < 0x110000 := c.valid
  have same {code : Nat} (equal : code = c.val.toNat) : Char.ofNat code = c := by
    rw [equal]
    exact Char.ofNat_toNat c
  unfold String.utf8EncodeChar
  generalize c.val.toNat = code at valid same ⊢
  dsimp only
  -- The bounds of the encoding are those by which the first byte is told apart.
  by_cases one : code ≤ 0x7F
  · have first : (UInt8.ofNat code).toNat = code := byte_to_nat (by omega)
    rw [if_pos one, List.singleton_append]
    unfold decodeFrom
    simp only [UInt8.lt_iff_toNat_lt, UInt8.reduceToNat, first]
    rw [if_pos (show code < 128 by omega), decoded, same rfl]
    rfl
  · rw [if_neg one]
    by_cases two : code ≤ 0x7FF
    · have first : (UInt8.ofNat (code / 64 % 32 + 0xC0)).toNat = code / 64 % 32 + 0xC0 := byte_to_nat (by omega)
      obtain ⟨continues, bits⟩ := continuation_byte code
      rw [if_pos two, List.cons_append, List.singleton_append]
      unfold decodeFrom
      simp only [UInt8.lt_iff_toNat_lt, UInt8.reduceToNat, first, continues, bits]
      rw [if_neg (show ¬ _ < 128 by omega), if_neg (show ¬ _ < 194 by omega), if_pos (show _ < 224 by omega),
        if_neg (by decide), decoded, same (by omega)]
      rfl
    · rw [if_neg two]
      by_cases three : code ≤ 0xFFFF
      · have first : (UInt8.ofNat (code / 4096 % 16 + 0xE0)).toNat = code / 4096 % 16 + 0xE0 := byte_to_nat (by omega)
        have follows := follows_three code (by omega) three (valid.imp_right (·.1))
        obtain ⟨-, middle⟩ := continuation_byte (code / 64)
        obtain ⟨continues, bits⟩ := continuation_byte code
        rw [if_pos three, List.cons_append, List.cons_append, List.singleton_append]
        unfold decodeFrom
        simp only [UInt8.lt_iff_toNat_lt, UInt8.reduceToNat, first, follows, middle, continues, bits]
        rw [if_neg (show ¬ _ < 128 by omega), if_neg (show ¬ _ < 194 by omega), if_neg (show ¬ _ < 224 by omega),
          if_pos (show _ < 240 by omega), if_neg (by decide), if_neg (by decide), decoded, same (by omega)]
        rfl
      · have first : (UInt8.ofNat (code / 262144 % 8 + 0xF0)).toNat = code / 262144 % 8 + 0xF0 :=
          byte_to_nat (by omega)
        have follows := follows_four code (by omega) (by omega)
        obtain ⟨-, second⟩ := continuation_byte (code / 4096)
        obtain ⟨continuesThird, third⟩ := continuation_byte (code / 64)
        obtain ⟨continues, bits⟩ := continuation_byte code
        rw [if_neg three, List.cons_append, List.cons_append, List.cons_append, List.singleton_append]
        unfold decodeFrom
        simp only [UInt8.lt_iff_toNat_lt, UInt8.reduceToNat, first, follows, second, continuesThird, third, continues, bits]
        rw [if_neg (show ¬ _ < 128 by omega), if_neg (show ¬ _ < 194 by omega), if_neg (show ¬ _ < 224 by omega),
          if_neg (show ¬ _ < 240 by omega), if_pos (show _ < 245 by omega), if_neg (by decide), if_neg (by decide),
          if_neg (by decide), decoded, same (by omega)]
        rfl

theorem decode_encode (chars : List Char) : decode (encode chars) = .ok chars := by
  have decoded (index : Nat) : decodeFrom index (encode chars) = .ok chars := by
    induction chars generalizing index with
    | nil => rfl
    | cons c chars ih => exact decode_char c (encode chars) chars index ih
  exact decoded 0

theorem byte_ne_line_feed {value : Nat} (fits : value < 256) (other : value ≠ 10) : 10 ≠ UInt8.ofNat value := by
  intro same
  have values := congrArg UInt8.toNat same
  rw [byte_to_nat fits] at values
  exact other values.symm

theorem line_feed_not_in_char (c : Char) (other : c ≠ '\n') : 10 ∉ String.utf8EncodeChar c := by
  have different : c.val.toNat ≠ 10 := fun same => other (Char.ext (UInt32.toNat_inj.mp same))
  unfold String.utf8EncodeChar
  generalize c.val.toNat = code at different ⊢
  dsimp only
  split_ifs with one two three <;> simp only [List.mem_cons, List.not_mem_nil, or_false, not_or]
  · exact byte_ne_line_feed (by omega) different
  · exact ⟨byte_ne_line_feed (by omega) (by omega), byte_ne_line_feed (by omega) (by omega)⟩
  · exact ⟨byte_ne_line_feed (by omega) (by omega), byte_ne_line_feed (by omega) (by omega),
      byte_ne_line_feed (by omega) (by omega)⟩
  · exact ⟨byte_ne_line_feed (by omega) (by omega), byte_ne_line_feed (by omega) (by omega),
      byte_ne_line_feed (by omega) (by omega), byte_ne_line_feed (by omega) (by omega)⟩

theorem encode_append (chars more : List Char) : encode (chars ++ more) = encode chars ++ encode more :=
  List.flatMap_append

theorem encode_one_line (chars : List Char) (oneLine : '\n' ∉ chars) : 10 ∉ encode chars := by
  intro found
  obtain ⟨c, inChars, inChar⟩ := List.mem_flatMap.mp found
  exact line_feed_not_in_char c (fun same => oneLine (same ▸ inChars)) inChar

end PageFeedback.Text
