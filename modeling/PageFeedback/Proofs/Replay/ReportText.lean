import Mathlib.Data.List.Forall2
import PageFeedback.Proofs.Json.Value
import PageFeedback.Proofs.Transcript.Entry
import PageFeedback.Replay.Report

set_option autoImplicit false

namespace PageFeedback

namespace Json

def text? : Json → Option String
  | string text => some text
  | _ => none

def flag? : Json → Option Bool
  | bool value => some value
  | _ => none

def count? : Json → Option Nat
  | number (.integer n) => some n.value.toNat
  | _ => none

def items? : Json → Option (List Json)
  | array items => some items
  | _ => none

end Json

theorem read_each {α : Type} (write : α → Json) (read : Json → Option α) {items : List α}
    (each : ∀ item ∈ items, read (write item) = some item) : (items.map write).mapM read = some items := by
  induction items with
  | nil => rfl
  | cons item items ih =>
      obtain ⟨own, later⟩ := List.forall_mem_cons.mp each
      rw [List.map_cons, List.mapM_cons, own, ih later]
      rfl

namespace Toast

theorem ordered_json (toast : Toast) : toast.toJson.ordered = .object
    [("background", .string toast.background), ("close", .bool toast.close),
      ("duration_ms", .number (.integer (.ofUInt64 toast.durationMs))), ("gravity", .string toast.gravity.label),
      ("new_window", .bool toast.newWindow), ("position", .string toast.position.label),
      ("stop_on_focus", .bool toast.stopOnFocus), ("text", .string toast.text),
      ("toast_type", .string toast.kind.label)] := by
  simp (disch := decide) only [toJson, Json.ordered, Json.orderedMembers, Json.byName, List.foldl_cons,
    List.foldl_nil, insert_alone, insert_before, insert_behind]

theorem kind_listed (kind : ToastKind) : ToastKind.labelled.lookup kind.label = some kind := by cases kind <;> rfl

theorem gravity_listed (gravity : Gravity) : Gravity.labelled.lookup gravity.label = some gravity := by
  cases gravity <;> rfl

theorem position_listed (position : Position) : Position.labelled.lookup position.label = some position := by
  cases position <;> rfl

theorem record_reads (toast : Toast) : Json.Reads record.read toast.toJson.ordered toast := by
  rw [ordered_json]
  refine Json.Record.Fills.reads_object (?_ : record.Fills [] record.blank _ ["toast_type", "text", "stop_on_focus",
    "position", "new_window", "gravity", "duration_ms", "close", "background"] toast) (by decide)
  refine .member rfl (by decide) (Json.reads_field (Json.reads_string _)) ?_
  refine .member rfl (by decide) (Json.reads_field (Json.reads_bool _)) ?_
  refine .member rfl (by decide) (Json.reads_field (Json.reads_uint64 _)) ?_
  refine .member rfl (by decide) (Json.reads_field (Json.reads_choice (gravity_listed _))) ?_
  refine .member rfl (by decide) (Json.reads_field (Json.reads_bool _)) ?_
  refine .member rfl (by decide) (Json.reads_field (Json.reads_choice (position_listed _))) ?_
  refine .member rfl (by decide) (Json.reads_field (Json.reads_bool _)) ?_
  refine .member rfl (by decide) (Json.reads_field (Json.reads_string _)) ?_
  refine .member rfl (by decide) (Json.reads_field (Json.reads_choice (kind_listed _))) ?_
  exact .all _ _

theorem parse_ordered (toast : Toast) : record.parse toast.toJson.ordered.compactText = .ok toast := by
  rw [Json.Record.parse, Json.compactText, String.toList_ofList]
  exact toast.record_reads.read_all .tight 0

def ofJson? (json : Json) : Option Toast := (record.parse json.compactText).toOption

theorem of_json_ordered (toast : Toast) : ofJson? toast.toJson.ordered = some toast := by
  rw [ofJson?, parse_ordered]
  rfl

theorem json_fits (depth : Nat) (toast : Toast) : toast.toJson.Fits (depth + 1) :=
  .object (by simp [Json.Fits.string, Json.Fits.bool, Json.Fits.integer])

end Toast

namespace Suppression

def ofJson? (json : Json) : Option Suppression :=
  match (json.member? "kind").bind Json.text?, (json.member? "detail").bind Json.text? with
  | some "message", some text => some (.message text)
  | some "silent", none => some .silent
  | some "malformed_body", some reason => some (.malformedBody reason)
  | _, _ => none

theorem of_json_ordered (suppression : Suppression) : ofJson? suppression.toJson.ordered = some suppression := by
  cases suppression with
  | message text => simp only [ofJson?, toJson, Json.member_of_ordered]; rfl
  | silent => simp only [ofJson?, toJson, Json.member_of_ordered]; rfl
  | malformedBody reason => simp only [ofJson?, toJson, Json.member_of_ordered]; rfl

theorem json_fits (depth : Nat) (suppression : Suppression) : suppression.toJson.Fits (depth + 1) := by
  cases suppression <;> exact .object (by simp [Json.Fits.string])

end Suppression

namespace Reaction

def bare : List Reaction :=
  [progressStarted, progressAlreadyRunning, progressKeptForRedirect, progressFinished, progressIdle, swapAllowed]

def ofJson? (json : Json) : Option Reaction :=
  match (json.member? "reaction").bind Json.text?, json.member? "detail" with
  | some "network_error_shown", some detail => detail.text?.map networkErrorShown
  | some "swap_suppressed", some detail => (Suppression.ofJson? detail).map swapSuppressed
  | some label, none => bare.find? fun reaction => reaction.label == label
  | _, _ => none

theorem of_json_ordered (reaction : Reaction) : ofJson? reaction.toJson.ordered = some reaction := by
  cases reaction with
  | networkErrorShown text => simp only [ofJson?, toJson, Json.member_of_ordered]; rfl
  | swapSuppressed suppression =>
      have detail := suppression.of_json_ordered
      simp only [ofJson?, toJson, Json.member_of_ordered]
      change (Suppression.ofJson? suppression.toJson.ordered).map swapSuppressed = _
      rw [detail]
      rfl
  | _ => simp only [ofJson?, toJson, Json.member_of_ordered]; rfl

theorem json_fits (depth : Nat) (reaction : Reaction) : reaction.toJson.Fits (depth + 2) := by
  refine .object (List.forall_mem_cons.mpr ⟨.string _ _, ?_⟩)
  cases reaction with
  | networkErrorShown text => simp [detail?, Json.Fits.string]
  | swapSuppressed suppression => simp [detail?, suppression.json_fits depth]
  | _ => simp [detail?]

end Reaction

namespace ReplayStep

def ofJson? (json : Json) : Option ReplayStep := do
  let line ← (json.member? "line").bind Json.count?
  let name ← (json.member? "event").bind Json.text?
  let event ← (LifecycleEvent.ofName name).toOption
  let status ← (json.member? "status").bind Json.count?
  let reaction ← (json.member? "reaction").bind Reaction.ofJson?
  let shouldSwap ← (json.member? "should_swap").bind Json.flag?
  let progressRunning ← (json.member? "progress_running").bind Json.flag?
  return ⟨line, event, UInt16.ofNat status, reaction, shouldSwap, progressRunning⟩

structure IsInJson (step : ReplayStep) (element : Json) : Prop where
  line : element.member? "line" = some (.number (.integer (.ofNat step.line)))
  event : element.member? "event" = some (.string step.event.domName)
  status : element.member? "status" = some (.number (.integer (.ofUInt16 step.status)))
  reaction : (element.member? "reaction").bind Reaction.ofJson? = some step.reaction
  shouldSwap : element.member? "should_swap" = some (.bool step.shouldSwap)
  progressRunning : element.member? "progress_running" = some (.bool step.progressRunning)

theorem in_json (step : ReplayStep) : step.IsInJson step.toJson.ordered := by
  refine ⟨?_, ?_, ?_, ?_, ?_, ?_⟩ <;> rw [toJson, Json.member_of_ordered]
  · rfl
  · rfl
  · rfl
  · exact step.reaction.of_json_ordered
  · rfl
  · rfl

-- A larger line number would be written as the largest of 64 bits.
theorem of_json_ordered (step : ReplayStep) (fits : step.line < 2 ^ 64) : ofJson? step.toJson.ordered = some step := by
  have told := step.in_json
  have line : Json.count? (.number (.integer (.ofNat step.line))) = some step.line := by
    simp only [Json.count?, Json.Integer.ofNat, Option.some.injEq]
    omega
  have status : Json.count? (.number (.integer (.ofUInt16 step.status))) = some step.status.toNat := rfl
  rw [ofJson?, told.line, told.event, told.status, told.reaction, told.shouldSwap, told.progressRunning]
  simp only [Option.bind_some, line, status]
  simp [Json.text?, Json.flag?, TranscriptEntry.name_is_read, Except.toOption]

theorem json_fits (depth : Nat) (step : ReplayStep) : step.toJson.Fits (depth + 3) :=
  .object (by simp [Json.Fits.string, Json.Fits.bool, Json.Fits.integer, step.reaction.json_fits depth])

end ReplayStep

namespace ReplayReport

theorem json_fits (depth : Nat) (report : ReplayReport) : report.toJson.Fits (depth + 5) := by
  have steps : (Json.array (report.steps.map ReplayStep.toJson)).Fits (depth + 4) :=
    .array (List.forall_mem_map.mpr fun step _ => step.json_fits depth)
  have toasts : (Json.array (report.toasts.map Toast.toJson)).Fits (depth + 4) :=
    .array (List.forall_mem_map.mpr fun toast _ => toast.json_fits (depth + 2))
  exact .object (by simp [steps, toasts, Json.Fits.bool])

theorem parse_text (report : ReplayReport) : Json.parse report.toJson.prettyText = .ok report.toJson.ordered :=
  (report.json_fits 122).parse_pretty

theorem steps_member (report : ReplayReport) :
    report.toJson.ordered.member? "steps" = some (.array (report.steps.map fun step => step.toJson.ordered)) := by
  rw [toJson, Json.member_of_ordered]
  exact congrArg some (Json.ordered_array ReplayStep.toJson report.steps)

theorem toasts_member (report : ReplayReport) :
    report.toJson.ordered.member? "toasts" = some (.array (report.toasts.map fun toast => toast.toJson.ordered)) := by
  rw [toJson, Json.member_of_ordered]
  exact congrArg some (Json.ordered_array Toast.toJson report.toasts)

theorem running_member (report : ReplayReport) :
    report.toJson.ordered.member? "progress_running" = some (.bool report.progressRunning) := by
  rw [toJson, Json.member_of_ordered]
  rfl

def ofJson? (json : Json) : Option ReplayReport := do
  let steps ← (json.member? "steps").bind Json.items?
  let toasts ← (json.member? "toasts").bind Json.items?
  let progressRunning ← (json.member? "progress_running").bind Json.flag?
  return ⟨← steps.mapM ReplayStep.ofJson?, ← toasts.mapM Toast.ofJson?, progressRunning⟩

theorem of_json_ordered (report : ReplayReport) (fits : ∀ step ∈ report.steps, step.line < 2 ^ 64) :
    ofJson? report.toJson.ordered = some report := by
  have steps : (report.steps.map fun step => step.toJson.ordered).mapM ReplayStep.ofJson? = some report.steps :=
    read_each _ _ fun step found => step.of_json_ordered (fits step found)
  have toasts : (report.toasts.map fun toast => toast.toJson.ordered).mapM Toast.ofJson? = some report.toasts :=
    read_each _ _ fun toast _ => toast.of_json_ordered
  rw [ofJson?, report.steps_member, report.toasts_member, report.running_member]
  simp [Json.items?, Json.flag?, steps, toasts]

end ReplayReport

theorem report_text_faithful (report : ReplayReport) :
    ∃ value, Json.parse report.toJson.prettyText = .ok value ∧
      (∃ elements, value.member? "toasts" = some (.array elements) ∧
        List.Forall₂ (fun element toast => Toast.record.parse element.compactText = .ok toast)
          elements report.toasts) ∧
      (∃ elements, value.member? "steps" = some (.array elements) ∧
        List.Forall₂ (fun element step => ∃ name, element.member? "event" = some (.string name) ∧
          LifecycleEvent.ofName name = .ok step.event) elements report.steps) ∧
      ∀ other : ReplayReport, (∀ step ∈ report.steps ++ other.steps, step.line < 2 ^ 64) → other ≠ report →
        other.toJson.prettyText ≠ report.toJson.prettyText := by
  refine ⟨report.toJson.ordered, report.parse_text, ⟨_, report.toasts_member, ?_⟩, ⟨_, report.steps_member, ?_⟩, ?_⟩
  · rw [List.forall₂_map_left_iff, List.forall₂_same]
    exact fun toast _ => toast.parse_ordered
  · rw [List.forall₂_map_left_iff, List.forall₂_same]
    exact fun step _ => ⟨step.event.domName, step.in_json.event, TranscriptEntry.name_is_read step.event⟩
  · intro other fits different same
    obtain ⟨own, others⟩ := List.forall_mem_append.mp fits
    -- Equal texts are read as one value, and from that value both reports are read back.
    have values : other.toJson.ordered = report.toJson.ordered := by
      have parsed := other.parse_text
      rw [same, report.parse_text] at parsed
      exact (Except.ok.inj parsed).symm
    have read := other.of_json_ordered others
    rw [values, report.of_json_ordered own] at read
    exact different (Option.some.inj read).symm

theorem texts_of_silent_and_empty :
    let silent : ReplayReport := ⟨[⟨1, .beforeSwap, 404, .swapSuppressed .silent, false, false⟩], [], false⟩
    let empty : ReplayReport := ⟨[⟨1, .beforeSwap, 404, .swapSuppressed (.message ""), false, false⟩], [], false⟩
    (∀ step ∈ silent.steps ++ empty.steps, step.line < 2 ^ 64) ∧ empty ≠ silent ∧
      empty.toJson.prettyText ≠ silent.toJson.prettyText := by
  intro silent empty
  have fits : ∀ step ∈ silent.steps ++ empty.steps, step.line < 2 ^ 64 := by decide
  have different : empty ≠ silent := by decide
  obtain ⟨_, _, _, _, apart⟩ := report_text_faithful silent
  exact ⟨fits, different, apart empty fits different⟩

end PageFeedback
