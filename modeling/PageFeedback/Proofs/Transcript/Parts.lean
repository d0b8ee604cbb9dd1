import Mathlib.Order.Monotone.Basic
import PageFeedback.Proofs.Transcript.RoundTrip
import PageFeedback.Replay.Report

set_option autoImplicit false

namespace PageFeedback

theorem ok_of_to_option {ε α : Type} {result : Except ε α} {value : α} (read : result.toOption = some value) :
    result = .ok value := by
  cases result with
  | error error => cases read
  | ok other => exact congrArg Except.ok (Option.some.inj read)

def TranscriptEntry.placed (place : Nat → Nat) (entry : TranscriptEntry) : TranscriptEntry :=
  { entry with line := place entry.line }

def TranscriptError.placed (place : Nat → Nat) (error : TranscriptError) : TranscriptError :=
  { error with line := place error.line }

def ReplayStep.placed (place : Nat → Nat) (step : ReplayStep) : ReplayStep := { step with line := place step.line }

def ReplayReport.placed (place : Nat → Nat) (report : ReplayReport) : ReplayReport :=
  { report with steps := report.steps.map (·.placed place) }

namespace Transcript

abbrev Reading := Except TranscriptError (List TranscriptEntry)

namespace Reading

variable (place : Nat → Nat) (reading : Reading)

def placed : Reading → Reading
  | .error error => .error (error.placed place)
  | .ok entries => .ok (entries.map (·.placed place))

-- What was read of two parts: the first fault counts.
def followedBy (first second : Reading) : Reading :=
  match first, second with
  | .error error, _ => .error error
  | .ok _, .error error => .error error
  | .ok entries, .ok more => .ok (entries ++ more)

def numbers : Reading → List Nat
  | .error error => [error.line]
  | .ok entries => entries.map (·.line)

theorem placed_id : reading.placed id = reading := by
  cases reading with
  | error error => rfl
  | ok entries => exact congrArg Except.ok (List.map_id' entries)

theorem placed_placed (again : Nat → Nat) : (reading.placed place).placed again = reading.placed (again ∘ place) := by
  cases reading with
  | error error => rfl
  | ok entries => exact congrArg Except.ok List.map_map

theorem placed_congr {place again : Nat → Nat} (same : ∀ number ∈ reading.numbers, place number = again number) :
    reading.placed place = reading.placed again := by
  cases reading with
  | error error => rw [placed, placed, TranscriptError.placed, same error.line List.mem_cons_self]; rfl
  | ok entries =>
      refine congrArg Except.ok (List.map_congr_left fun entry found => ?_)
      rw [TranscriptEntry.placed, same entry.line (List.mem_map_of_mem found)]
      rfl

theorem placed_followed (first second : Reading) :
    (first.followedBy second).placed place = (first.placed place).followedBy (second.placed place) := by
  cases first with
  | error error => rfl
  | ok entries =>
      cases second with
      | error error => rfl
      | ok more => exact congrArg Except.ok List.map_append

theorem nothing_followed : followedBy (.ok []) reading = reading := by cases reading <;> rfl

theorem followed_assoc (first second third : Reading) :
    (first.followedBy second).followedBy third = first.followedBy (second.followedBy third) := by
  cases first with
  | error error => rfl
  | ok entries =>
      cases second with
      | error error => rfl
      | ok more =>
          cases third with
          | error error => rfl
          | ok last => exact congrArg Except.ok (List.append_assoc _ _ _)

theorem numbers_placed : (reading.placed place).numbers = reading.numbers.map place := by
  cases reading with
  | error error => rfl
  | ok entries =>
      change (entries.map _).map _ = (entries.map _).map _
      rw [List.map_map, List.map_map]
      rfl

theorem numbers_of_followed {first second : Reading} {number : Nat} (found : number ∈ (first.followedBy second).numbers) :
    number ∈ first.numbers ∨ number ∈ second.numbers := by
  cases first with
  | error error => exact .inl found
  | ok entries =>
      cases second with
      | error error => exact .inr found
      | ok more =>
          change number ∈ (entries ++ more).map _ at found
          rw [List.map_append] at found
          exact List.mem_append.mp found

end Reading

def lineReading (number : Nat) (line : List UInt8) : Reading :=
  match readLine number line with
  | .error fault => .error ⟨number, fault⟩
  | .ok entry => .ok entry.toList

theorem read_line_placed (place : Nat → Nat) (number : Nat) (line : List UInt8) :
    readLine (place number) line = (readLine number line).map (Option.map (·.placed place)) := by
  unfold readLine
  split
  · rfl
  · split
    · rfl
    · rfl
    · split <;> rfl

theorem line_reading_placed (place : Nat → Nat) (number : Nat) (line : List UInt8) :
    lineReading (place number) line = (lineReading number line).placed place := by
  rw [lineReading, lineReading, read_line_placed place]
  cases readLine number line with
  | error fault => rfl
  | ok entry => cases entry <;> rfl

theorem line_reading_numbers {number other : Nat} {line : List UInt8} (found : other ∈ (lineReading number line).numbers) :
    other = number := by
  -- To place a reading of this line at its own number changes nothing.
  have own := line_reading_placed (fun _ => number) number line
  rw [own, Reading.numbers_placed] at found
  obtain ⟨_, -, same⟩ := List.mem_map.mp found
  exact same.symm

theorem read_lines_cons (number : Nat) (line : List UInt8) (lines : List (List UInt8)) :
    readLines number (line :: lines) = (lineReading number line).followedBy (readLines (number + 1) lines) := by
  rw [readLines, lineReading]
  cases readLine number line with
  | error fault => rfl
  | ok entry => cases readLines (number + 1) lines <;> rfl

theorem read_lines_placed (more number : Nat) (lines : List (List UInt8)) :
    readLines (more + number) lines = Reading.placed (more + ·) (readLines number lines) := by
  induction lines generalizing number with
  | nil => rfl
  | cons line lines ih =>
      rw [read_lines_cons, read_lines_cons, Reading.placed_followed, Nat.add_assoc, ih, line_reading_placed (more + ·)]

theorem read_lines_append (number : Nat) (first second : List (List UInt8)) :
    readLines number (first ++ second) =
      Reading.followedBy (readLines number first) (readLines (number + first.length) second) := by
  induction first generalizing number with
  | nil => exact (Reading.nothing_followed _).symm
  | cons line first ih =>
      rw [List.cons_append, read_lines_cons, read_lines_cons, ih, Reading.followed_assoc, Nat.add_assoc,
        List.length_cons, Nat.add_comm 1]

theorem read_lines_within {number other : Nat} {lines : List (List UInt8)}
    (found : other ∈ Reading.numbers (readLines number lines)) : number ≤ other ∧ other < number + lines.length := by
  induction lines generalizing number with
  | nil => exact nomatch found
  | cons line lines ih =>
      rw [read_lines_cons] at found
      rw [List.length_cons]
      cases Reading.numbers_of_followed found with
      | inl own =>
          rw [line_reading_numbers own]
          omega
      | inr later =>
          have bounds := ih later
          omega

-- Lines with their ends: the bytes are none, or the last is a line feed.
def AreLines (bytes : List UInt8) : Prop := bytes = [] ∨ bytes.getLast? = some 10

def feeds (bytes : List UInt8) : Nat := bytes.count 10

theorem AreLines.of_cons {byte : UInt8} {bytes : List UInt8} (lines : AreLines (byte :: bytes)) :
    AreLines bytes ∧ (byte ≠ 10 → bytes ≠ []) := by
  cases bytes with
  | nil =>
      refine ⟨.inl rfl, fun other => absurd ?_ other⟩
      exact Option.some.inj (lines.resolve_left (List.cons_ne_nil _ _))
  | cons next bytes => exact ⟨.inr (lines.resolve_left (List.cons_ne_nil _ _)), fun _ => List.cons_ne_nil _ _⟩

theorem split_lines_present {bytes : List UInt8} (present : bytes ≠ []) : splitLines bytes ≠ [] := by
  cases bytes with
  | nil => exact absurd rfl present
  | cons byte bytes =>
      rw [splitLines]
      split
      · exact List.cons_ne_nil _ _
      · split <;> exact List.cons_ne_nil _ _

theorem split_lines_append {first : List UInt8} (second : List UInt8) (lines : AreLines first) :
    splitLines (first ++ second) = splitLines first ++ splitLines second := by
  induction first with
  | nil => rfl
  | cons byte first ih =>
      obtain ⟨rest, present⟩ := lines.of_cons
      rw [List.cons_append, splitLines, splitLines, ih rest]
      split
      · rfl
      next other =>
        -- The line that the byte stands on goes on, and it ends before the second part.
        cases whole : splitLines first with
        | nil => exact absurd whole (split_lines_present (present other))
        | cons line more => rfl

theorem split_lines_length {bytes : List UInt8} (lines : AreLines bytes) : (splitLines bytes).length = feeds bytes := by
  induction bytes with
  | nil => rfl
  | cons byte bytes ih =>
      obtain ⟨rest, present⟩ := lines.of_cons
      have later := ih rest
      rw [splitLines, feeds, List.count_cons]
      split
      next feed => rw [List.length_cons, later, feed]; rfl
      next other =>
        cases whole : splitLines bytes with
        | nil => exact absurd whole (split_lines_present (present other))
        | cons line more =>
            rw [whole] at later
            rw [if_neg (by simpa using other)]
            exact later

theorem parse_append {first : List UInt8} (second : List UInt8) (lines : AreLines first) :
    parse (first ++ second) = Reading.followedBy (parse first) (Reading.placed (feeds first + ·) (parse second)) := by
  rw [parse, split_lines_append second lines, read_lines_append, split_lines_length lines, Nat.add_comm 1,
    read_lines_placed]
  rfl

theorem parse_within {bytes : List UInt8} {number : Nat} (found : number ∈ Reading.numbers (parse bytes)) :
    1 ≤ number ∧ number < 1 + (splitLines bytes).length := read_lines_within found

def lineFault? (line : List UInt8) : Option LineFault :=
  match readLine 0 line with
  | .error fault => some fault
  | .ok _ => none

theorem read_line_fault_iff (number : Nat) (line : List UInt8) (fault : LineFault) :
    readLine number line = .error fault ↔ lineFault? line = some fault := by
  rw [read_line_placed (fun _ => number) 0 line, lineFault?]
  cases readLine 0 line with
  | error other => exact ⟨fun same => congrArg some (Except.error.inj same), fun same => congrArg _ (Option.some.inj same)⟩
  | ok entry => exact ⟨fun same => (nomatch same), fun same => nomatch same⟩

theorem lines_without_fault (number : Nat) (lines : List (List UInt8)) (good : ∀ line ∈ lines, lineFault? line = none) :
    ∃ entries, readLines number lines = .ok entries := by
  induction lines generalizing number with
  | nil => exact ⟨[], rfl⟩
  | cons line lines ih =>
      obtain ⟨own, later⟩ := List.forall_mem_cons.mp good
      obtain ⟨entries, rest⟩ := ih (number + 1) later
      rw [readLines, rest]
      cases read : readLine number line with
      | error fault =>
          rw [(read_line_fault_iff number line fault).mp read] at own
          cases own
      | ok entry => exact ⟨_, rfl⟩

theorem read_lines_bad {number : Nat} {before after : List (List UInt8)} {bad : List UInt8}
    {earlier : List TranscriptEntry} {fault : LineFault} (valid : readLines number before = .ok earlier)
    (refused : readLine (number + before.length) bad = .error fault) :
    readLines number (before ++ bad :: after) = .error ⟨number + before.length, fault⟩ := by
  rw [read_lines_append, valid, readLines, refused]
  rfl

theorem read_lines_error_iff (number : Nat) (lines : List (List UInt8)) (error : TranscriptError) :
    readLines number lines = .error error ↔
      ∃ before bad after, lines = before ++ bad :: after ∧ (∀ line ∈ before, lineFault? line = none) ∧
        error.line = number + before.length ∧ lineFault? bad = some error.fault := by
  constructor
  · intro failed
    cases found : lines.find? fun line => (lineFault? line).isSome with
    | none =>
        have good : ∀ line ∈ lines, lineFault? line = none := by simpa using List.find?_eq_none.mp found
        obtain ⟨entries, read⟩ := lines_without_fault number lines good
        rw [read] at failed
        cases failed
    | some bad =>
        obtain ⟨isBad, before, after, rfl, good⟩ := List.find?_eq_some_iff_append.mp found
        obtain ⟨fault, refused⟩ := Option.isSome_iff_exists.mp isBad
        have faultless : ∀ line ∈ before, lineFault? line = none := by simpa using good
        obtain ⟨entries, valid⟩ := lines_without_fault number before faultless
        rw [read_lines_bad valid ((read_line_fault_iff _ bad fault).mpr refused)] at failed
        cases failed
        exact ⟨before, bad, after, rfl, faultless, rfl, refused⟩
  · rintro ⟨before, bad, after, rfl, good, place, refused⟩
    obtain ⟨entries, valid⟩ := lines_without_fault number before good
    rw [read_lines_bad valid ((read_line_fault_iff _ bad error.fault).mpr refused), ← place]

def passedLine (text : PassedText) (ending : LineEnd) : List UInt8 := Text.encode (Line.chars ⟨.passed text, ending⟩)

theorem passed_line_is_line (text : PassedText) (ending : LineEnd) :
    AreLines (passedLine text ending) ∧ feeds (passedLine text ending) = 1 := by
  obtain ⟨inner, bytes, oneLine⟩ := Line.bytes ⟨.passed text, ending⟩
  rw [passedLine, bytes]
  refine ⟨.inr List.getLast?_concat, ?_⟩
  rw [feeds, List.count_append, List.count_eq_zero.mpr oneLine]
  rfl

theorem parse_passed_line (text : PassedText) (ending : LineEnd) : parse (passedLine text ending) = .ok [] := by
  have split := Line.split ⟨.passed text, ending⟩ []
  rw [List.append_nil] at split
  have read : readLine 1 (passedLine text ending) = .ok none :=
    LineText.is_read (.passed text) 1 ending.chars ending.blank
  rw [parse, passedLine, split, ← passedLine, readLines, read]
  rfl

def numberWithLine (behind number : Nat) : Nat := if number ≤ behind then number else number + 1

theorem number_with_line_rises (behind : Nat) : StrictMono (numberWithLine behind) := by
  intro a b less
  unfold numberWithLine
  split <;> split <;> omega

theorem parse_with_line {head : List UInt8} (lines : AreLines head) (rest : List UInt8) (text : PassedText)
    (ending : LineEnd) :
    parse (head ++ (passedLine text ending ++ rest)) = Reading.placed (numberWithLine (feeds head)) (parse (head ++ rest)) := by
  obtain ⟨isLine, one⟩ := passed_line_is_line text ending
  have before : Reading.placed (numberWithLine (feeds head)) (parse head) = parse head := by
    refine (Reading.placed_congr _ fun number found => ?_).trans (Reading.placed_id _)
    have bounds := parse_within found
    rw [split_lines_length lines] at bounds
    exact if_pos (by omega)
  have behind : Reading.placed (numberWithLine (feeds head) ∘ (feeds head + ·)) (parse rest) =
      Reading.placed ((feeds head + ·) ∘ (1 + ·)) (parse rest) := by
    refine Reading.placed_congr _ fun number found => ?_
    have bounds := parse_within found
    simp only [Function.comp_apply, numberWithLine]
    rw [if_neg (by omega)]
    omega
  rw [parse_append _ lines, parse_append _ isLine, parse_passed_line, one, Reading.nothing_followed,
    Reading.placed_placed, parse_append _ lines, Reading.placed_followed, Reading.placed_placed, before, behind]

inductive Annotates (plain : List UInt8) : List UInt8 → Prop
  | same : Annotates plain plain
  | line (head rest : List UInt8) (annotated : Annotates plain (head ++ rest)) (lines : AreLines head) (text : PassedText)
      (ending : LineEnd) : Annotates plain (head ++ (passedLine text ending ++ rest))

theorem Annotates.parse {plain annotated : List UInt8} (annotates : Annotates plain annotated) :
    ∃ place, StrictMono place ∧ Transcript.parse annotated = Reading.placed place (Transcript.parse plain) := by
  induction annotates with
  | same => exact ⟨id, strictMono_id, (Reading.placed_id _).symm⟩
  | line head rest annotated lines text ending ih =>
      obtain ⟨place, rises, read⟩ := ih
      refine ⟨numberWithLine (feeds head) ∘ place, (number_with_line_rises _).comp rises, ?_⟩
      rw [parse_with_line lines, read, Reading.placed_placed]

end Transcript

namespace Coordinator

section

variable {P T : Type} [ProgressIndicator P] [ToastSink T]

theorem replay_placed (coordinator : Coordinator P T) (place : Nat → Nat) (entries : List TranscriptEntry) :
    coordinator.replay (entries.map (·.placed place)) =
      ((coordinator.replay entries).1, (coordinator.replay entries).2.map (·.placed place)) := by
  induction entries generalizing coordinator with
  | nil => rfl
  | cons entry entries ih =>
      have later := ih (coordinator.replayEntry entry).1
      have last := congrArg Prod.fst later
      have steps := congrArg (fun done => (coordinator.replayEntry entry).2.placed place :: done.2) later
      exact Prod.ext last steps

end

theorem replay_live_placed (coordinator : Coordinator TerminalBar ToastQueue) (pause : Duration) (place : Nat → Nat)
    (entries : List TranscriptEntry) :
    coordinator.replayLive pause (entries.map (·.placed place)) =
      ((coordinator.replayLive pause entries).1,
        (coordinator.replayLive pause entries).2.map fun live => { live with step := live.step.placed place }) := by
  induction entries generalizing coordinator with
  | nil => rfl
  | cons entry entries ih =>
      let handled := coordinator.replayEntry entry
      have later := ih (handled.1.pass pause).1
      have last := congrArg Prod.fst later
      have steps := congrArg (fun done => LiveStep.mk (handled.2.placed place) (handled.1.pass pause).2 :: done.2) later
      exact Prod.ext last steps

end Coordinator

namespace ReplayReport

variable (settings : FeedbackSettings) (place : Nat → Nat) (entries : List TranscriptEntry)

theorem of_entries_placed : ofEntries settings (entries.map (·.placed place)) = (ofEntries settings entries).placed place := by
  unfold ofEntries
  rw [Coordinator.replay_placed]
  rfl

theorem of_live_placed (pause : Duration) :
    ofLive settings pause (entries.map (·.placed place)) = (ofLive settings pause entries).placed place := by
  unfold ofLive
  rw [Coordinator.replay_live_placed]
  simp only [collect, placed, List.map_map]
  rfl

end ReplayReport

namespace Transcript

theorem transcript_read_in_parts (first second : List UInt8) (lines : AreLines first) :
    (∀ error, parse first = .error error → parse (first ++ second) = .error error) ∧
    (∀ entries error, parse first = .ok entries → parse second = .error error →
      parse (first ++ second) = .error (error.placed (feeds first + ·))) ∧
    (∀ entries more, parse first = .ok entries → parse second = .ok more →
      parse (first ++ second) = .ok (entries ++ more.map (·.placed (feeds first + ·)))) ∧
    (∀ bytes error, parse bytes = .error error ↔
      ∃ before bad after, splitLines bytes = before ++ bad :: after ∧ (∀ line ∈ before, lineFault? line = none) ∧
        error.line = 1 + before.length ∧ lineFault? bad = some error.fault) ∧
    ∀ plain annotated, Annotates plain annotated →
      ∃ place, StrictMono place ∧ (∀ error, parse plain = .error error → parse annotated = .error (error.placed place)) ∧
        ∀ entries, parse plain = .ok entries →
          parse annotated = .ok (entries.map (·.placed place)) ∧
          (∀ settings, ReplayReport.ofEntries settings (entries.map (·.placed place)) =
            (ReplayReport.ofEntries settings entries).placed place) ∧
          ∀ settings pause, ReplayReport.ofLive settings pause (entries.map (·.placed place)) =
            (ReplayReport.ofLive settings pause entries).placed place := by
  have whole := parse_append second lines
  refine ⟨fun error failed => ?_, fun entries error read failed => ?_, fun entries more read later => ?_,
    fun bytes error => read_lines_error_iff 1 (splitLines bytes) error, fun plain annotated annotates => ?_⟩
  · rw [whole, failed]
    rfl
  · rw [whole, read, failed]
    rfl
  · rw [whole, read, later]
    rfl
  · obtain ⟨place, rises, read⟩ := annotates.parse
    refine ⟨place, rises, fun error failed => ?_, fun entries plainly => ⟨?_, fun settings => ?_, fun settings pause => ?_⟩⟩
    · rw [read, failed]
      rfl
    · rw [read, plainly]
      rfl
    · exact ReplayReport.of_entries_placed settings place entries
    · exact ReplayReport.of_live_placed settings place entries pause

-- The bad byte stands on the second line of the second part. Without it, a comment in front moves the entry down.
theorem stray_byte_in_second_part :
    let first := Text.encode "\x7b\"event\":\"sendError\"\x7d\n".toList
    let second : List UInt8 := [10, 255]
    let comment : PassedText := ⟨['#'], by decide, fun _ found => (Option.some.inj found).symm⟩
    let fault : LineFault := .notUtf8 (.invalid 1 0)
    let entry : TranscriptEntry := ⟨1, .sendError, .unsent⟩
    AreLines first ∧ parse first = .ok [entry] ∧ parse second = .error ⟨2, fault⟩ ∧
      parse (first ++ second) = .error ⟨3, fault⟩ ∧ Annotates first (passedLine comment .feed ++ first) ∧
      ∃ place, StrictMono place ∧ parse (passedLine comment .feed ++ first) = .ok [entry.placed place] := by
  intro first second comment fault entry
  have lines : AreLines first := .inr (by decide +kernel)
  have read : parse first = .ok [entry] := ok_of_to_option (by decide +kernel)
  have failed : parse second = .error ⟨2, fault⟩ := rfl
  have commented : Annotates first (passedLine comment .feed ++ first) := .line [] first .same (.inl rfl) comment .feed
  obtain ⟨-, later, -, -, annotated⟩ := transcript_read_in_parts first second lines
  obtain ⟨place, rises, -, entries⟩ := annotated first _ commented
  exact ⟨lines, read, failed, later [entry] _ read failed, commented, place, rises, (entries [entry] read).1⟩

end Transcript

end PageFeedback
