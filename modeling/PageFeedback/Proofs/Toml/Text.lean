import PageFeedback.Toml.Printer
import PageFeedback.Toml.Text

set_option autoImplicit false

namespace PageFeedback.Toml

theorem control_escape : ∀ code < 128, isControl (Char.ofNat code) = true →
    Text.hexChar? ['0', '0', hexDigit (code / 16), hexDigit (code % 16)] = some (Char.ofNat code) := by
  decide +kernel

inductive IsWritten (c : Char) : List Char → Prop
  | letter (mark : Char) (stands : plainEscape? mark = some c) (known : mark ∈ ['"', '\\', 'b', 't', 'f', 'r']) :
      IsWritten c ['\\', mark]
  | code (high low : Char) (stands : Text.hexChar? ['0', '0', high, low] = some c) :
      IsWritten c ['\\', 'u', '0', '0', high, low]
  | itself (noQuote : c ≠ '"') (free : c ≠ '\\') (plain : isPlain c = true ∨ c = '\n') : IsWritten c [c]

theorem quote_written : IsWritten '"' ['\\', '"'] := .letter '"' rfl (by simp)

theorem plain_of_not_control (c : Char) (free : isControl c = false) : isPlain c = true ∨ c = '\n' := by
  by_cases lineFeed : c = '\n'
  · exact .inr lineFeed
  · left
    by_cases tab : c = '\t'
    · rw [tab]
      rfl
    · simp [isControl, tab, lineFeed] at free
      simp [isPlain, free]

theorem escaped_char_written (c : Char) (noQuote : c ≠ '"') : IsWritten c (escapedChar c) := by
  unfold escapedChar
  split
  next same => exact same ▸ .letter '\\' rfl (by simp)
  · split
    next same => exact same ▸ .letter 'b' rfl (by simp)
    · split
      next same => exact same ▸ .letter 't' rfl (by simp)
      · split
        next same => exact same ▸ .letter 'f' rfl (by simp)
        · split
          next same => exact same ▸ .letter 'r' rfl (by simp)
          · split
            next control =>
              -- Controls are in ASCII, where the escapes were tried one by one.
              have small : c.toNat < 128 := by
                simp only [isControl, Bool.or_eq_true, Bool.and_eq_true, decide_eq_true_eq] at control
                omega
              have stands := control_escape c.toNat small (by rwa [Char.ofNat_toNat])
              rw [Char.ofNat_toNat] at stands
              exact .code _ _ stands
            next free =>
              exact .itself noQuote (by assumption) (plain_of_not_control c (Bool.eq_false_iff.mpr free))

namespace IsWritten

variable {c : Char} {chars : List Char}

theorem head (written : IsWritten c chars) (more : List Char) :
    ∃ first rest, chars ++ more = first :: rest ∧ first ≠ '"' ∧ first ≠ '\r' ∧ (c ≠ '\n' → first ≠ '\n') := by
  cases written with
  | letter mark => exact ⟨'\\', mark :: more, rfl, by decide, by decide, fun _ => by decide⟩
  | code high low => exact ⟨'\\', _, rfl, by decide, by decide, fun _ => by decide⟩
  | itself noQuote free plain =>
      refine ⟨c, more, rfl, noQuote, ?_, id⟩
      rintro rfl
      exact absurd plain (by decide)

theorem read_basic (written : IsWritten c chars) (sameLine : c ≠ '\n') (rest : List Char) :
    readBasic (chars ++ rest) = prepend? (some c) (readBasic rest) := by
  cases written with
  | letter mark stands known =>
      rw [← stands]
      simp only [List.mem_cons, List.not_mem_nil, or_false] at known
      rw [readBasic.eq_def]
      rcases known with rfl | rfl | rfl | rfl | rfl | rfl <;> rfl
  | code high low stands =>
      rw [← stands, readBasic.eq_def]
      rfl
  | itself noQuote free plain =>
      rw [List.singleton_append, readBasic.eq_def]
      simp only [if_neg noQuote, if_neg free, if_pos (plain.resolve_right sameLine)]

theorem read_long_basic (written : IsWritten c chars) (rest : List Char) :
    readLongBasic false (chars ++ rest) = prepend? (some c) (readLongBasic false rest) := by
  cases written with
  | letter mark stands known =>
      rw [← stands]
      simp only [List.mem_cons, List.not_mem_nil, or_false] at known
      rw [readLongBasic.eq_def]
      rcases known with rfl | rfl | rfl | rfl | rfl | rfl <;> rfl
  | code high low stands =>
      rw [← stands, readLongBasic.eq_def]
      rfl
  | itself noQuote free plain =>
      have passes : (isPlain c || isLineBreak c rest) = true := by
        cases plain with
        | inl plain => rw [plain, Bool.true_or]
        | inr lineFeed => rw [lineFeed]; rfl
      rw [List.singleton_append, readLongBasic.eq_def]
      simp only [Bool.false_and, Bool.false_eq_true, if_neg noQuote, if_neg free, if_pos passes, if_false]

end IsWritten

theorem read_basic_escaped (text unread : List Char) (oneLine : '\n' ∉ text) :
    readBasic (escapedChars 0 0 text ++ '"' :: unread) = some (text, unread) := by
  induction text with
  | nil =>
      rw [readBasic.eq_def]
      rfl
  | cons c text ih =>
      have rest := ih fun found => oneLine (List.mem_cons_of_mem c found)
      have sameLine : c ≠ '\n' := fun same => oneLine (same ▸ List.mem_cons_self)
      by_cases quote : c = '"'
      · rw [quote, escapedChars, if_pos rfl, if_neg (Nat.lt_irrefl 0)]
        change readBasic (['\\', '"'] ++ (escapedChars 0 0 text ++ '"' :: unread)) = _
        rw [quote_written.read_basic (by decide), rest]
        rfl
      · rw [escapedChars, if_neg quote, List.append_assoc, (escaped_char_written c quote).read_basic sameLine, rest]
        rfl

theorem read_literal (text unread : List Char) (plain : ∀ c ∈ text, isPlain c = true) (noQuote : '\x27' ∉ text) :
    readLiteral (text ++ '\x27' :: unread) = some (text, unread) := by
  induction text with
  | nil => rfl
  | cons c text ih =>
      have rest := ih (fun d found => plain d (List.mem_cons_of_mem c found))
        (fun found => noQuote (List.mem_cons_of_mem c found))
      have other : c ≠ '\x27' := fun same => noQuote (same ▸ List.mem_cons_self)
      rw [List.cons_append, readLiteral, if_neg other, if_pos (plain c List.mem_cons_self), rest]
      rfl

def twoQuotes (quote : Char) : List Char → Bool
  | a :: b :: _ => a = quote && b = quote
  | _ => false

theorem two_quotes_of_head (quote first : Char) (rest : List Char) (other : first ≠ quote) :
    twoQuotes quote (first :: rest) = false := by
  cases rest with
  | nil => rfl
  | cons d rest => simp [twoQuotes, other]

theorem read_long_basic_quote (rest : List Char) (more : twoQuotes '"' rest = false) :
    readLongBasic false ('"' :: rest) = prepend? (some '"') (readLongBasic false rest) := by
  rw [readLongBasic.eq_def]
  simp only [Bool.false_and, Bool.false_eq_true, if_false, if_true]
  split
  · exact nomatch more
  · rfl

theorem read_long_literal_quote (rest : List Char) (more : twoQuotes '\x27' rest = false) :
    readLongLiteral ('\x27' :: rest) = prepend? (some '\x27') (readLongLiteral rest) := by
  rw [readLongLiteral.eq_def]
  simp only [if_true]
  split
  · exact nomatch more
  · rfl

theorem escaped_chars_head (allowed quotes : Nat) (c : Char) (text more : List Char)
    (notRaw : c ≠ '"' ∨ allowed ≤ quotes) :
    ∃ first rest, escapedChars allowed quotes (c :: text) ++ more = first :: rest ∧ first ≠ '"' := by
  by_cases quote : c = '"'
  · rw [escapedChars, if_pos quote, if_neg (Nat.not_lt.mpr (notRaw.resolve_left (not_not_intro quote)))]
    exact ⟨'\\', _, rfl, by decide⟩
  · obtain ⟨first, rest, same, other, -⟩ :=
      (escaped_char_written c quote).head (escapedChars allowed 0 text ++ more)
    rw [escapedChars, if_neg quote, List.append_assoc, same]
    exact ⟨first, rest, rfl, other⟩

theorem escaped_two_quotes (quotes : Nat) (text unread : List Char) (after : 0 < quotes)
    (two : twoQuotes '"' (escapedChars 2 quotes text ++ '"' :: '"' :: '"' :: unread) = true) :
    text = [] ∨ text = ['"'] ∧ quotes = 1 := by
  cases text with
  | nil => exact .inl rfl
  | cons c text =>
      by_cases raw : c = '"' ∧ quotes < 2
      · obtain ⟨rfl, few⟩ := raw
        rw [escapedChars, if_pos rfl, if_pos few, List.cons_append] at two
        cases text with
        | nil => exact .inr ⟨rfl, by omega⟩
        | cons d text =>
            obtain ⟨first, rest, same, other⟩ :=
              escaped_chars_head 2 (quotes + 1) d text ('"' :: '"' :: '"' :: unread) (.inr (by omega))
            rw [same, twoQuotes] at two
            simp [other] at two
      · obtain ⟨first, rest, same, other⟩ :=
          escaped_chars_head 2 quotes c text ('"' :: '"' :: '"' :: unread)
            ((Decidable.not_and_iff_not_or_not.mp raw).imp_right Nat.not_lt.mp)
        rw [same, two_quotes_of_head '"' first rest other] at two
        cases two

theorem closing_at_line_end (quote : Char) (other : quote ≠ '\n') (unread : List Char) :
    closing quote ('\n' :: unread) = ([], '\n' :: unread) := by
  cases unread with
  | nil => rw [closing, if_neg (Ne.symm other)]
  | cons c unread => rw [closing, if_neg (Ne.symm other)]

theorem read_long_basic_end (rest : List Char) :
    readLongBasic false ('"' :: '"' :: '"' :: rest) = some (closing '"' rest) := by
  rw [readLongBasic.eq_def]
  rfl

theorem read_long_basic_escaped (quotes : Nat) (text unread : List Char) :
    readLongBasic false (escapedChars 2 quotes text ++ '"' :: '"' :: '"' :: '\n' :: unread) =
      some (text, '\n' :: unread) := by
  induction text generalizing quotes with
  | nil =>
      change readLongBasic false ('"' :: '"' :: '"' :: '\n' :: unread) = _
      rw [read_long_basic_end, closing_at_line_end _ (by decide)]
  | cons c text ih =>
      by_cases quote : c = '"'
      · rw [quote, escapedChars, if_pos rfl]
        by_cases few : quotes < 2
        · rw [if_pos few, List.cons_append]
          cases two : twoQuotes '"' (escapedChars 2 (quotes + 1) text ++ '"' :: '"' :: '"' :: '\n' :: unread) with
          | true =>
              -- The closing quotes come first, and the quotes of the text after them.
              obtain rfl | ⟨rfl, one⟩ := escaped_two_quotes _ _ _ (Nat.succ_pos _) two
              · change readLongBasic false ('"' :: '"' :: '"' :: '"' :: '\n' :: unread) = _
                rw [read_long_basic_end]
                rfl
              · cases one
                change readLongBasic false ('"' :: '"' :: '"' :: '"' :: '"' :: '\n' :: unread) = _
                rw [read_long_basic_end]
                rfl
          | false =>
              rw [read_long_basic_quote _ two, ih]
              rfl
        · rw [if_neg few]
          change readLongBasic false (['\\', '"'] ++ (escapedChars 2 0 text ++ _)) = _
          rw [quote_written.read_long_basic, ih]
          rfl
      · rw [escapedChars, if_neg quote, List.append_assoc, (escaped_char_written c quote).read_long_basic, ih]
        rfl

theorem longest_run_mono (c : Char) (text : List Char) (before more : Nat) (atMost : before ≤ more) :
    longestRun c before text ≤ longestRun c more text := by
  induction text generalizing before more with
  | nil => exact atMost
  | cons d text ih =>
      by_cases same : d = c
      · rw [longestRun, longestRun, if_pos same, if_pos same]
        exact ih _ _ (Nat.succ_le_succ atMost)
      · rw [longestRun, longestRun, if_neg same, if_neg same]
        omega

theorem le_longest_run (c : Char) (text : List Char) (before : Nat) : before ≤ longestRun c before text := by
  induction text generalizing before with
  | nil => exact Nat.le_refl _
  | cons d text ih =>
      rw [longestRun]
      split
      · exact Nat.le_of_succ_le (ih (before + 1))
      · exact Nat.le_max_left _ _

theorem longest_run_tail (c d : Char) (text : List Char) : longestRun c 0 text ≤ longestRun c 0 (d :: text) := by
  rw [longestRun]
  split
  · exact longest_run_mono c text 0 1 (by decide)
  · exact Nat.le_max_right _ _

theorem literal_two_quotes (text unread : List Char) (runs : longestRun '\x27' 1 text ≤ 2)
    (two : twoQuotes '\x27' (text ++ '\x27' :: '\x27' :: '\x27' :: unread) = true) :
    text = [] ∨ text = ['\x27'] := by
  match text with
  | [] => exact .inl rfl
  | [c] => simpa [twoQuotes] using two
  | c :: d :: text =>
      obtain ⟨rfl, rfl⟩ : c = '\x27' ∧ d = '\x27' := by simpa [twoQuotes] using two
      have three : 3 ≤ longestRun '\x27' 3 text := le_longest_run _ text 3
      exact absurd (Nat.le_trans three runs) (by decide)

theorem read_long_literal_end (rest : List Char) :
    readLongLiteral ('\x27' :: '\x27' :: '\x27' :: rest) = some (closing '\x27' rest) := by
  rw [readLongLiteral.eq_def]
  rfl

theorem read_long_literal (text unread : List Char) (plain : ∀ c ∈ text, isPlain c = true ∨ c = '\n')
    (runs : longestRun '\x27' 0 text ≤ 2) :
    readLongLiteral (text ++ '\x27' :: '\x27' :: '\x27' :: '\n' :: unread) = some (text, '\n' :: unread) := by
  induction text with
  | nil =>
      change readLongLiteral ('\x27' :: '\x27' :: '\x27' :: '\n' :: unread) = _
      rw [read_long_literal_end, closing_at_line_end _ (by decide)]
  | cons c text ih =>
      have rest := ih (fun d found => plain d (List.mem_cons_of_mem c found))
        (Nat.le_trans (longest_run_tail _ c text) runs)
      by_cases quote : c = '\x27'
      · rw [quote] at runs ⊢
        rw [List.cons_append]
        cases two : twoQuotes '\x27' (text ++ '\x27' :: '\x27' :: '\x27' :: '\n' :: unread) with
        | true =>
            obtain rfl | rfl := literal_two_quotes text _ runs two
            · change readLongLiteral ('\x27' :: '\x27' :: '\x27' :: '\x27' :: '\n' :: unread) = _
              rw [read_long_literal_end]
              rfl
            · change readLongLiteral ('\x27' :: '\x27' :: '\x27' :: '\x27' :: '\x27' :: '\n' :: unread) = _
              rw [read_long_literal_end]
              rfl
        | false =>
            rw [read_long_literal_quote _ two, rest]
            rfl
      · have passes (more : List Char) : (isPlain c || isLineBreak c more) = true := by
          cases plain c List.mem_cons_self with
          | inl plain => rw [plain, Bool.true_or]
          | inr lineFeed => rw [lineFeed]; rfl
        rw [List.cons_append, readLongLiteral.eq_def]
        simp only [if_neg quote, if_pos (passes _), rest]
        rfl

def StringForm.Holds : StringForm → List Char → Prop
  | basic, text => '\n' ∉ text
  | literal, text => (∀ c ∈ text, isPlain c = true) ∧ '\x27' ∉ text
  | longBasic, _ => True
  | longLiteral, text => (∀ c ∈ text, isPlain c = true ∨ c = '\n') ∧ longestRun '\x27' 0 text ≤ 2

theorem form_holds (text : List Char) : (StringForm.of text).Holds text := by
  have escaped : (if text.contains '\n' then StringForm.longBasic else .basic).Holds text := by
    by_cases broken : '\n' ∈ text
    · rw [if_pos (by simpa using broken)]
      trivial
    · rw [if_neg (by simpa using broken)]
      exact broken
  unfold StringForm.of
  dsimp only
  split
  · exact escaped
  next free =>
    have plain : ∀ c ∈ text, isPlain c = true ∨ c = '\n' := by
      intro c found
      refine plain_of_not_control c (Bool.eq_false_iff.mpr fun control => free ?_)
      exact List.any_eq_true.mpr ⟨c, found, control⟩
    split
    next oneLine =>
      have free := (Bool.and_eq_true_iff.mp (Bool.and_eq_true_iff.mp oneLine).1).1
      exact (by simpa using free : '\n' ∉ text)
    · split
      next unquoted =>
        obtain ⟨oneLine, noQuote⟩ := Bool.and_eq_true_iff.mp unquoted
        have oneLine : '\n' ∉ text := by simpa using oneLine
        have noQuote : '\x27' ∉ text := by simpa using noQuote
        exact ⟨fun c found => (plain c found).resolve_right fun same => oneLine (same ▸ found), noQuote⟩
      · split
        · trivial
        · split
          next runs => exact ⟨plain, runs⟩
          · exact escaped

theorem read_double_quoted_short (rest : List Char) (short : twoQuotes '"' rest = false) :
    readDoubleQuoted rest = readBasic rest := by
  unfold readDoubleQuoted
  split
  · exact nomatch short
  · rfl

theorem read_single_quoted_short (rest : List Char) (short : twoQuotes '\x27' rest = false) :
    readSingleQuoted rest = readLiteral rest := by
  unfold readSingleQuoted
  split
  · exact nomatch short
  · rfl

theorem trim_no_line (first : Char) (rest : List Char) (noLineFeed : first ≠ '\n') (noReturn : first ≠ '\r') :
    trimFirstLine (first :: rest) = first :: rest := by
  unfold trimFirstLine
  split
  next same => exact absurd (List.cons.inj same).1 noLineFeed
  next same => exact absurd (List.cons.inj same).1 noReturn
  · rfl

theorem trim_line_break (text body : List Char)
    (start : '\n' ∉ text → ∃ first rest, body = first :: rest ∧ first ≠ '\n' ∧ first ≠ '\r') :
    trimFirstLine (lineBreakBefore text ++ body) = body := by
  unfold lineBreakBefore
  by_cases broken : '\n' ∈ text
  · rw [if_pos (by simpa using broken)]
    rfl
  · obtain ⟨first, rest, rfl, noLineFeed, noReturn⟩ := start broken
    rw [if_neg (by simpa using broken)]
    exact trim_no_line first rest noLineFeed noReturn

theorem escaped_chars_start (text more : List Char) (oneLine : '\n' ∉ text) :
    ∃ first rest, escapedChars 2 0 text ++ '"' :: more = first :: rest ∧ first ≠ '\n' ∧ first ≠ '\r' := by
  cases text with
  | nil => exact ⟨'"', more, rfl, by decide, by decide⟩
  | cons c text =>
      by_cases quote : c = '"'
      · rw [quote]
        exact ⟨'"', _, rfl, by decide, by decide⟩
      · obtain ⟨first, rest, same, -, noReturn, noLineFeed⟩ :=
          (escaped_char_written c quote).head (escapedChars 2 0 text ++ '"' :: more)
        rw [escapedChars, if_neg quote, List.append_assoc, same]
        exact ⟨first, rest, rfl, noLineFeed fun same => oneLine (same ▸ List.mem_cons_self), noReturn⟩

def readQuoted : Reader (List Char)
  | '"' :: rest => readDoubleQuoted rest
  | '\x27' :: rest => readSingleQuoted rest
  | _ => none

theorem read_string_chars (text unread : List Char) :
    readQuoted (stringChars text ++ '\n' :: unread) = some (text, '\n' :: unread) := by
  have holds := form_holds text
  unfold stringChars
  generalize StringForm.of text = form at holds ⊢
  cases form with
  | basic =>
      -- Quotes of the text are escaped, so three at the start are no mark of several lines.
      have short : twoQuotes '"' (escapedChars 0 0 text ++ '"' :: '\n' :: unread) = false := by
        cases text with
        | nil => rfl
        | cons c text =>
            obtain ⟨first, rest, same, other⟩ :=
              escaped_chars_head 0 0 c text ('"' :: '\n' :: unread) (.inr (Nat.le_refl 0))
            rw [same]
            exact two_quotes_of_head _ first rest other
      dsimp only
      rw [List.cons_append, List.append_assoc]
      exact (read_double_quoted_short _ short).trans (read_basic_escaped text _ holds)
  | literal =>
      obtain ⟨plain, noQuote⟩ := holds
      have short : twoQuotes '\x27' (text ++ '\x27' :: '\n' :: unread) = false := by
        cases text with
        | nil => rfl
        | cons c text => exact two_quotes_of_head _ c _ fun same => noQuote (same ▸ List.mem_cons_self)
      dsimp only
      rw [List.cons_append, List.append_assoc]
      exact (read_single_quoted_short _ short).trans (read_literal text _ plain noQuote)
  | longBasic =>
      -- A text on one line starts with no line end of its own, which would be dropped.
      have start := escaped_chars_start text ('"' :: '"' :: '\n' :: unread)
      change readLongBasic false (trimFirstLine ((lineBreakBefore text ++ escapedChars 2 0 text ++ _) ++ _)) = _
      rw [List.append_assoc, List.append_assoc]
      exact (congrArg (readLongBasic false) (trim_line_break text _ start)).trans (read_long_basic_escaped 0 text unread)
  | longLiteral =>
      obtain ⟨plain, runs⟩ := holds
      have start (oneLine : '\n' ∉ text) :
          ∃ first rest, text ++ '\x27' :: '\x27' :: '\x27' :: '\n' :: unread = first :: rest ∧
            first ≠ '\n' ∧ first ≠ '\r' := by
        cases text with
        | nil => exact ⟨'\x27', _, rfl, by decide, by decide⟩
        | cons c text =>
            have noLineFeed : c ≠ '\n' := fun same => oneLine (same ▸ List.mem_cons_self)
            refine ⟨c, _, rfl, noLineFeed, ?_⟩
            rintro rfl
            exact absurd (plain '\r' List.mem_cons_self) (by decide)
      change readLongLiteral (trimFirstLine ((lineBreakBefore text ++ text ++ _) ++ _)) = _
      rw [List.append_assoc, List.append_assoc]
      exact (congrArg readLongLiteral (trim_line_break text _ start)).trans (read_long_literal text unread plain runs)

end PageFeedback.Toml
