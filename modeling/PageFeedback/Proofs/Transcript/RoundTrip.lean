import PageFeedback.Proofs.Text.Utf8
import PageFeedback.Proofs.Transcript.Entry

set_option autoImplicit false

namespace PageFeedback.Transcript

inductive LineEnd
  | feed
  | returnAndFeed

def LineEnd.chars : LineEnd → List Char
  | feed => ['\n']
  | returnAndFeed => ['\r', '\n']

-- The text of a line without an entry: it is blank, or a comment from its first visible character on.
structure PassedText where
  chars : List Char
  oneLine : '\n' ∉ chars
  passed : ∀ c ∈ chars.find? (fun c => !Text.isBlank c), c = '#'

inductive LineText
  | entry (entry : TranscriptEntry)
  | passed (text : PassedText)

namespace LineText

def chars : LineText → List Char
  | .entry recorded => recorded.toJson.compact
  | .passed text => text.chars

def entry? : LineText → Option TranscriptEntry
  | .entry recorded => some recorded
  | .passed _ => none

def placed? (text : LineText) (number : Nat) : Option TranscriptEntry :=
  text.entry?.map fun entry => { entry with line := number }

end LineText

structure Line where
  text : LineText
  ending : LineEnd

def Line.chars (line : Line) : List Char := line.text.chars ++ line.ending.chars

structure Written where
  lines : List Line
  last : Option LineText

namespace Written

def chars (written : Written) : List Char :=
  written.lines.flatMap Line.chars ++ written.last.toList.flatMap LineText.chars

def texts (written : Written) : List LineText := written.lines.map Line.text ++ written.last.toList

def entries (written : Written) : List TranscriptEntry :=
  (written.texts.zipIdx 1).filterMap fun numbered => numbered.1.placed? numbered.2

end Written

theorem split_line (line rest : List UInt8) (oneLine : 10 ∉ line) :
    splitLines (line ++ 10 :: rest) = (line ++ [10]) :: splitLines rest := by
  induction line with
  | nil => rfl
  | cons byte line ih =>
      obtain ⟨other, later⟩ := not_or.mp (fun found => oneLine (List.mem_cons.mpr found))
      rw [List.cons_append, splitLines, if_neg (Ne.symm other), ih later]
      rfl

theorem split_last_line (byte : UInt8) (line : List UInt8) (oneLine : 10 ∉ byte :: line) :
    splitLines (byte :: line) = [byte :: line] := by
  induction line generalizing byte with
  | nil =>
      have other : byte ≠ 10 := fun same => oneLine (same ▸ List.mem_cons_self)
      rw [splitLines, if_neg other]
      rfl
  | cons next line ih =>
      obtain ⟨other, later⟩ := not_or.mp (fun found => oneLine (List.mem_cons.mpr found))
      rw [splitLines, if_neg (Ne.symm other), ih next later]

theorem read_visible_line (number : Nat) (chars rest : List Char) (trimmed : Text.trim chars = '{' :: rest) :
    readLine number (Text.encode chars) =
      match Json.readAll TranscriptEntry.record.read ('{' :: rest) with
      | .error error => .error (.malformed error)
      | .ok entry => .ok (some { entry with line := number }) := by
  rw [readLine, Text.decode_encode]
  dsimp only
  rw [trimmed]
  rfl

namespace LineText

theorem one_line (text : LineText) : '\n' ∉ text.chars := by
  cases text with
  | entry recorded => exact recorded.toJson.compact_one_line
  | passed text => exact text.oneLine

theorem is_read (text : LineText) (number : Nat) (blanks : List Char) (blank : ∀ c ∈ blanks, Text.isBlank c = true) :
    readLine number (Text.encode (text.chars ++ blanks)) = .ok (text.placed? number) := by
  cases text with
  | entry recorded =>
      -- The braces of the object are what trimming finds at both ends.
      obtain ⟨inner, braces⟩ := recorded.compact_between_braces
      have visible : Text.isBlank '{' = false ∧ Text.isBlank '}' = false := by decide
      have trimmed := Text.trim_visible inner blanks visible.1 visible.2 blank
      have read := recorded.read_all_compact
      rw [braces] at read
      change readLine number (Text.encode (recorded.toJson.compact ++ blanks)) = _
      rw [braces, read_visible_line number _ _ trimmed, read]
      rfl
  | passed text =>
      have noneVisible : blanks.find? (fun c => !Text.isBlank c) = none := by
        refine List.find?_eq_none.mpr fun c found => ?_
        simp [blank c found]
      have head := Text.trim_head (text.chars ++ blanks)
      rw [List.find?_append, noneVisible, Option.or_none] at head
      rw [readLine, Text.decode_encode]
      dsimp only [chars]
      cases trimmed : Text.trim (text.chars ++ blanks) with
      | nil => rfl
      | cons c rest =>
          rw [trimmed] at head
          have comment : c = '#' := text.passed c head.symm
          subst comment
          rfl

end LineText

theorem LineEnd.blank (ending : LineEnd) : ∀ c ∈ ending.chars, Text.isBlank c = true := by
  have all : ending.chars.all Text.isBlank = true := by cases ending <;> rfl
  exact List.all_eq_true.mp all

theorem Line.bytes (line : Line) : ∃ inner, Text.encode line.chars = inner ++ [10] ∧ 10 ∉ inner := by
  obtain ⟨text, ending⟩ := line
  cases ending with
  | feed => exact ⟨Text.encode text.chars, Text.encode_append _ _, Text.encode_one_line _ text.one_line⟩
  | returnAndFeed =>
      have oneLine : '\n' ∉ text.chars ++ ['\r'] := by simp [text.one_line]
      refine ⟨Text.encode (text.chars ++ ['\r']), ?_, Text.encode_one_line _ oneLine⟩
      change Text.encode (text.chars ++ (['\r'] ++ ['\n'])) = _
      rw [← List.append_assoc, Text.encode_append _ ['\n']]
      rfl

theorem Line.split (line : Line) (rest : List UInt8) :
    splitLines (Text.encode line.chars ++ rest) = Text.encode line.chars :: splitLines rest := by
  obtain ⟨inner, bytes, oneLine⟩ := line.bytes
  rw [bytes, List.append_assoc]
  exact split_line inner rest oneLine

theorem LineText.is_read_last (text : LineText) (number : Nat) :
    readLines number (splitLines (Text.encode text.chars)) = .ok (text.placed? number).toList := by
  have read := text.is_read number [] (fun _ found => nomatch found)
  have oneLine := Text.encode_one_line text.chars text.one_line
  rw [List.append_nil] at read
  cases written : Text.encode text.chars with
  | nil =>
      -- No line is left to read, and a line without characters would hold no entry.
      rw [written] at read
      rw [← Except.ok.inj read]
      rfl
  | cons byte bytes =>
      rw [written] at read oneLine
      rw [split_last_line byte bytes oneLine]
      simp only [readLines, read, List.append_nil]

theorem read_lines (lines : List Line) (last : Option LineText) (number : Nat) :
    readLines number (splitLines (Text.encode (lines.flatMap Line.chars ++ last.toList.flatMap LineText.chars))) =
      .ok (((lines.map Line.text ++ last.toList).zipIdx number).filterMap fun numbered =>
        numbered.1.placed? numbered.2) := by
  induction lines generalizing number with
  | nil =>
      cases last with
      | none => rfl
      | some text =>
          have read := text.is_read_last number
          simp only [List.flatMap_nil, List.nil_append, Option.toList_some, List.flatMap_singleton, List.map_nil]
          rw [read]
          cases placed : text.placed? number <;> simp [placed]
  | cons line lines ih =>
      have read : readLine number (Text.encode line.chars) = .ok (line.text.placed? number) :=
        line.text.is_read number line.ending.chars line.ending.blank
      rw [List.flatMap_cons, List.append_assoc, Text.encode_append, line.split, readLines, read, ih]
      cases placed : line.text.placed? number <;> simp [placed]

theorem Line.one_feed (line : Line) : line.chars.count '\n' = 1 := by
  have feed : line.ending.chars.count '\n' = 1 := by cases line.ending <;> decide
  rw [Line.chars, List.count_append, List.count_eq_zero.mpr line.text.one_line, feed]

theorem feeds_of_lines (lines : List Line) : (lines.flatMap Line.chars).count '\n' = lines.length := by
  induction lines with
  | nil => rfl
  | cons line lines ih => rw [List.flatMap_cons, List.count_append, line.one_feed, ih, List.length_cons, Nat.add_comm]

theorem transcript_round_trip (written : Written) :
    parse (Text.encode written.chars) = .ok written.entries ∧
      ∀ index, ((written.lines.take index).flatMap Line.chars).count '\n' = min index written.lines.length := by
  refine ⟨read_lines written.lines written.last 1, fun index => ?_⟩
  rw [feeds_of_lines, List.length_take]

end PageFeedback.Transcript
