import PageFeedback.Replay.Report
import PageFeedback.Table

set_option autoImplicit false

namespace PageFeedback

namespace ReplayReport

def headerCell (label : String) : Cell := Cell.styled ⟨some .cyan, .bold⟩ label

def dimCell (text : String) : Cell := Cell.styled ⟨none, .dim⟩ text

def colouredCell (colour : Colour) (text : String) : Cell := Cell.styled ⟨some colour, .normal⟩ text

def statusCell (status : UInt16) : Cell :=
  let text := toString status
  if status = 0 then dimCell "-"
  else if 200 ≤ status && status ≤ 299 then colouredCell .green text
  else if 400 ≤ status && status ≤ 499 then colouredCell .yellow text
  else if 500 ≤ status then colouredCell .red text
  else Cell.plain text

def reactionCell (reaction : Reaction) : Cell :=
  match reaction with
  | .networkErrorShown _ => colouredCell .yellow reaction.describe
  | .swapSuppressed (.message _) => colouredCell .yellow reaction.describe
  | .swapSuppressed (.malformedBody _) => colouredCell .red reaction.describe
  | .progressAlreadyRunning => dimCell reaction.describe
  | .progressIdle => dimCell reaction.describe
  | _ => Cell.plain reaction.describe

def swapCell (step : ReplayStep) : Cell :=
  if step.event ≠ .beforeSwap then dimCell "-"
  else if step.shouldSwap then colouredCell .green "yes"
  else colouredCell .yellow "no"

def progressCell (running : Bool) : Cell := if running then Cell.plain "running" else dimCell "idle"

def stepRow (step : ReplayStep) : List Cell :=
  [Cell.plain (toString step.line), Cell.plain step.event.domName, statusCell step.status,
    reactionCell step.reaction, swapCell step, progressCell step.progressRunning]

def stepsTable (report : ReplayReport) : Table where
  columns := [⟨headerCell "Line", .right⟩, ⟨headerCell "Event", .left⟩,
    ⟨headerCell "Status", .right⟩, ⟨headerCell "Reaction", .left⟩,
    ⟨headerCell "Swap", .centre⟩, ⟨headerCell "Progress", .centre⟩]
  rows := report.steps.map stepRow
  separator := '│'
  ruled := true

def durationText (toast : Toast) : String :=
  if toast.isPersistent then "until dismissed" else s!"{toast.durationMs} ms"

def toastRow (toast : Toast) : List Cell :=
  [Cell.plain toast.text, colouredCell .yellow toast.kind.label,
    Cell.plain s!"{toast.gravity.label}-{toast.position.label}", Cell.plain (durationText toast)]

def toastsTable (report : ReplayReport) : Table where
  columns := ["Toast", "Type", "Placement", "Duration"].map fun label => ⟨headerCell label, .left⟩
  rows := report.toasts.map toastRow
  separator := '┆'
  ruled := false

def text (report : ReplayReport) : String :=
  let toasts := if report.toasts.isEmpty then "No toasts on screen." else report.toastsTable.text
  let indicator := if report.progressRunning then "running" else "idle"
  s!"{report.stepsTable.text}\n{toasts}\nProgress indicator: {indicator}\n"

end ReplayReport

end PageFeedback
