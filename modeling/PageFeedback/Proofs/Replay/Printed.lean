import PageFeedback.CommandLine.Run
import PageFeedback.Proofs.Replay.ReportText
import PageFeedback.Proofs.Table
import PageFeedback.Proofs.Text.Digits

set_option autoImplicit false

namespace PageFeedback

namespace ReplayStep

def IsInRow (step : ReplayStep) (cells : List (List (List Char))) : Prop :=
  let status := if step.status = 0 then "-" else toString step.status
  let swap := if step.event ≠ .beforeSwap then "-" else if step.shouldSwap then "yes" else "no"
  let progress := if step.progressRunning then "running" else "idle"
  ∃ reaction, HoldsText reaction step.reaction.describe ∧
    cells = [[(toString step.line).toList], [step.event.domName.toList], [status.toList], reaction, [swap.toList],
      [progress.toList]]

end ReplayStep

def Toast.IsInRow (toast : Toast) (cells : List (List (List Char))) : Prop :=
  let placement := s!"{toast.gravity.label}-{toast.position.label}"
  let duration := if toast.durationMs = 0 then "until dismissed" else s!"{toast.durationMs} ms"
  ∃ text, HoldsText text toast.text ∧
    cells = [text, [toast.kind.label.toList], [placement.toList], [duration.toList]]

namespace ReplayReport

-- A text that is one JSON document, which tells of each step and of each toast in order.
def IsJson (report : ReplayReport) (text : String) : Prop :=
  ∃ json value steps toasts, text = json ++ "\n" ∧ Json.parse json = .ok value ∧
    value.member? "steps" = some (.array steps) ∧
    List.Forall₂ ReplayStep.IsInJson report.steps steps ∧
    value.member? "toasts" = some (.array toasts) ∧
    List.Forall₂ (fun toast element => Toast.record.parse element.compactText = .ok toast) report.toasts toasts ∧
    value.member? "progress_running" = some (.bool report.progressRunning)

-- A text whose lines are a table with a row for each step in order, one with a row for each
-- toast, if there are any, and the state of the indicator.
def IsTabled (report : ReplayReport) (text : String) : Prop :=
  ∃ steps toasts indicator : List (List Char),
    text.toList = (steps ++ toasts ++ indicator).flatMap (· ++ ['\n']) ∧
    Table.Draws '│' true ["Line", "Event", "Status", "Reaction", "Swap", "Progress"] report.steps ReplayStep.IsInRow
      steps ∧
    (report.toasts = [] → toasts = ["No toasts on screen.".toList]) ∧
    (report.toasts ≠ [] →
      Table.Draws '┆' false ["Toast", "Type", "Placement", "Duration"] report.toasts Toast.IsInRow toasts) ∧
    indicator = [(if report.progressRunning then "Progress indicator: running" else "Progress indicator: idle").toList]

end ReplayReport

theorem plain_number (n : Nat) : IsPlain (toString n) := by
  intro c found
  have digit : c.isDigit = true := (digits_are_digits n).digit c (by simpa [digits] using found)
  have other (d : Char) (noDigit : d.isDigit = false) : c ≠ d := AreDigits.ne_of_digit digit noDigit
  exact ⟨other '\n' rfl, by simp [Text.Shape.isIntroducer, other Text.escape rfl, other '\u009b' rfl]⟩

namespace ReplayReport

theorem status_cell_lines (status : UInt16) :
    (statusCell status).lines = [(if status = 0 then "-" else toString status).toList] := by
  have number (style : Style) : (Cell.styled style (toString status)).lines = [(toString status).toList] :=
    Cell.lines_of_plain style (plain_number status.toNat)
  unfold statusCell
  by_cases none : status = 0
  · rw [if_pos none, if_pos none]
    decide +kernel
  · rw [if_neg none, if_neg none]
    split
    · exact number _
    · split
      · exact number _
      · split <;> exact number _

theorem swap_cell_lines (step : ReplayStep) : (swapCell step).lines =
    [(if step.event ≠ .beforeSwap then "-" else if step.shouldSwap then "yes" else "no").toList] := by
  unfold swapCell
  split
  · decide +kernel
  · split <;> decide +kernel

theorem progress_cell_lines (running : Bool) :
    (progressCell running).lines = [(if running then "running" else "idle").toList] := by
  cases running <;> decide +kernel

theorem reaction_cell_holds (reaction : Reaction) : HoldsText (reactionCell reaction).lines reaction.describe := by
  unfold reactionCell
  split <;> exact Cell.holds_text _ _

theorem step_in_row (step : ReplayStep) : step.IsInRow ((stepRow step).map Cell.lines) := by
  have line : (Cell.plain (toString step.line)).lines = [(toString step.line).toList] :=
    Cell.lines_of_plain _ (plain_number step.line)
  have event : (Cell.plain step.event.domName).lines = [step.event.domName.toList] := by
    cases step.event <;> decide +kernel
  refine ⟨(reactionCell step.reaction).lines, reaction_cell_holds _, ?_⟩
  simp only [stepRow, List.map_cons, List.map_nil, line, event, status_cell_lines, swap_cell_lines, progress_cell_lines]

theorem duration_cell_lines (toast : Toast) : (Cell.plain (durationText toast)).lines =
    [(if toast.durationMs = 0 then "until dismissed" else s!"{toast.durationMs} ms").toList] := by
  unfold durationText Toast.isPersistent
  by_cases persistent : toast.durationMs = 0
  · simp only [persistent]
    decide +kernel
  · have unit : IsPlain " ms" := by simp [IsPlain, Text.Shape.isIntroducer, Text.escape]
    have plain : IsPlain s!"{toast.durationMs} ms" := (plain_number toast.durationMs.toNat).append unit
    rw [if_neg persistent, if_neg (by simpa using persistent)]
    exact Cell.lines_of_plain _ plain

theorem toast_in_row (toast : Toast) : toast.IsInRow ((toastRow toast).map Cell.lines) := by
  have kind : (colouredCell .yellow toast.kind.label).lines = [toast.kind.label.toList] := by
    cases toast.kind <;> decide +kernel
  have placement : (Cell.plain s!"{toast.gravity.label}-{toast.position.label}").lines =
      [s!"{toast.gravity.label}-{toast.position.label}".toList] := by
    cases toast.gravity <;> cases toast.position <;> decide +kernel
  refine ⟨(Cell.plain toast.text).lines, Cell.holds_text _ _, ?_⟩
  simp only [toastRow, List.map_cons, List.map_nil, kind, placement, duration_cell_lines]

theorem steps_titled (report : ReplayReport) : report.stepsTable.columns.map (·.header.lines) =
    ["Line", "Event", "Status", "Reaction", "Swap", "Progress"].map fun title => [title.toList] := by
  change (stepsTable ⟨[], [], false⟩).columns.map (·.header.lines) = _
  decide +kernel

theorem toasts_titled (report : ReplayReport) : report.toastsTable.columns.map (·.header.lines) =
    ["Toast", "Type", "Placement", "Duration"].map fun title => [title.toList] := by
  change (toastsTable ⟨[], [], false⟩).columns.map (·.header.lines) = _
  decide +kernel

theorem tabled (report : ReplayReport) : report.IsTabled report.text := by
  have steps := report.stepsTable.lines_draw stepRow rfl report.steps_titled (fun _ _ => rfl) fun step _ =>
    step_in_row step
  have toasts := report.toastsTable.lines_draw toastRow rfl report.toasts_titled (fun _ _ => rfl) fun toast _ =>
    toast_in_row toast
  let shown := if report.toasts.isEmpty then "No toasts on screen." else report.toastsTable.text
  let shownLines := if report.toasts = [] then ["No toasts on screen.".toList] else report.toastsTable.lines false
  have shownJoined : shown.toList ++ ['\n'] = shownLines.flatMap (· ++ ['\n']) := by
    by_cases none : report.toasts = []
    · simp [shown, shownLines, none]
    · simp [shown, shownLines, none, Table.text_lines]
  refine ⟨report.stepsTable.lines false, shownLines, _, ?_, steps, fun none => if_pos none, fun some => ?_, rfl⟩
  · have parts : report.text = report.stepsTable.text ++ "\n" ++ shown ++ "\nProgress indicator: " ++
        (if report.progressRunning then "running" else "idle") ++ "\n" := rfl
    have joined : report.text.toList = (report.stepsTable.text.toList ++ ['\n']) ++ (shown.toList ++ ['\n']) ++
        ((if report.progressRunning then "Progress indicator: running" else "Progress indicator: idle").toList ++
          ['\n']) := by
      rw [parts]
      cases report.progressRunning <;> simp
    rw [joined, Table.text_lines, shownJoined]
    simp
  · rw [show shownLines = report.toastsTable.lines false from if_neg some]
    exact toasts

theorem json_printed (report : ReplayReport) : report.IsJson (report.toJson.prettyText ++ "\n") := by
  refine ⟨_, _, _, _, rfl, report.parse_text, report.steps_member, ?_, report.toasts_member, ?_, report.running_member⟩
  · rw [List.forall₂_map_right_iff, List.forall₂_same]
    exact fun step _ => step.in_json
  · rw [List.forall₂_map_right_iff, List.forall₂_same]
    exact fun toast _ => toast.parse_ordered

end ReplayReport

namespace ReportForm

def Tells (form : ReportForm) (report : ReplayReport) (text : String) : Prop :=
  match form with
  | .table => report.IsTabled text
  | .json => report.IsJson text

theorem print_tells (form : ReportForm) (report : ReplayReport) : form.Tells report (form.print report) := by
  cases form with
  | table => exact report.tabled
  | json => exact report.json_printed

end ReportForm

end PageFeedback
