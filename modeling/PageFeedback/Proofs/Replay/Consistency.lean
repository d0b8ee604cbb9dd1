import PageFeedback.CommandLine.Run
import PageFeedback.Proofs.Coordinator

set_option autoImplicit false

namespace PageFeedback

def Cell.shows (cell : Cell) (text : String) : Bool := cell.lines == [text.toList]

def Table.under (table : Table) (title : String) : List Cell :=
  match table.columns.findIdx? fun column => column.header.shows title with
  | some index => table.rows.filterMap fun row => row[index]?
  | none => []

def Reaction.showsMessage : Reaction → Bool
  | swapSuppressed (.message _) => true
  | _ => false

theorem count_parts {α : Type} (whole first second : α → Bool) (items : List α)
    (parts : ∀ item ∈ items, (whole item).toNat = (first item).toNat + (second item).toNat) :
    items.countP whole = items.countP first + items.countP second := by
  induction items with
  | nil => rfl
  | cons item items ih =>
      obtain ⟨own, later⟩ := List.forall_mem_cons.mp parts
      have count (test : α → Bool) : (item :: items).countP test = items.countP test + (test item).toNat := by
        rw [List.countP_cons]
        cases test item <;> rfl
      rw [count, count, count, ih later, own]
      omega

namespace ReplayStep

def isRefused (policy : SwapPolicy) (step : ReplayStep) : Bool :=
  step.event == .beforeSwap && policy.suppresses step.status

structure Agrees (policy : SwapPolicy) (step : ReplayStep) : Prop where
  swap : step.shouldSwap = !step.isRefused policy
  suppressed : step.reaction.isSwapSuppressed = step.isRefused policy
  spoken : step.reaction.toastText.isSome.toNat =
    (step.event == .sendError).toNat + step.reaction.showsMessage.toNat

end ReplayStep

namespace Transcript

theorem read_line_number {number : Nat} {bytes : List UInt8} {entry : TranscriptEntry}
    (read : readLine number bytes = .ok (some entry)) : entry.line = number := by
  unfold readLine at read
  split at read
  · cases read
  · split at read
    · cases read
    · cases read
    · split at read
      · cases read
      · cases read
        rfl

theorem read_lines_rising {number : Nat} {lines : List (List UInt8)} {entries : List TranscriptEntry}
    (read : readLines number lines = .ok entries) :
    (∀ entry ∈ entries, number ≤ entry.line) ∧ entries.Pairwise fun a b => a.line < b.line := by
  induction lines generalizing number entries with
  | nil =>
      cases read
      exact ⟨fun _ found => (nomatch found), List.Pairwise.nil⟩
  | cons line lines ih =>
      rw [readLines] at read
      cases first : readLine number line with
      | error fault =>
          rw [first] at read
          cases read
      | ok entry =>
          cases rest : readLines (number + 1) lines with
          | error error =>
              rw [first, rest] at read
              cases read
          | ok later =>
              rw [first, rest] at read
              cases read
              obtain ⟨above, rising⟩ := ih rest
              cases entry with
              | none => exact ⟨fun entry found => Nat.le_of_succ_le (above entry found), rising⟩
              | some entry =>
                  obtain rfl := read_line_number first
                  refine ⟨fun other found => ?_, List.pairwise_cons.mpr ⟨above, rising⟩⟩
                  cases List.mem_cons.mp found with
                  | inl own => exact Nat.le_of_eq (congrArg TranscriptEntry.line own.symm)
                  | inr after => exact Nat.le_of_succ_le (above other after)

end Transcript

namespace Coordinator

section

variable {P T : Type} [ProgressIndicator P] [ToastSink T]

theorem replay_entry_agrees (coordinator : Coordinator P T) (entry : TranscriptEntry) :
    (coordinator.replayEntry entry).2.Agrees coordinator.settings.swap.policy := by
  obtain ⟨line, event, transaction⟩ := entry
  have handles := coordinator.handle_cases event (EventDetail.ofTransaction transaction)
  unfold replayEntry
  dsimp only
  generalize coordinator.handle event (EventDetail.ofTransaction transaction) = result at handles
  cases handles with
  | started | alreadyRunning | kept | finished | idle | failed => exact ⟨rfl, rfl, rfl⟩
  | allowed allowed =>
      change coordinator.settings.swap.policy.suppresses transaction.status = false at allowed
      exact ⟨by simp [ReplayStep.isRefused, EventDetail.ofTransaction, allowed],
        by simp [ReplayStep.isRefused, Reaction.isSwapSuppressed, allowed], rfl⟩
  | suppressed refused =>
      change coordinator.settings.swap.policy.suppresses transaction.status = true at refused
      refine ⟨by simp [ReplayStep.isRefused, refused], by simp [ReplayStep.isRefused, Reaction.isSwapSuppressed, refused], ?_⟩
      cases suppressionOf (EventDetail.ofTransaction transaction).transaction.responseText <;> rfl

theorem replay_agrees (coordinator : Coordinator P T) (entries : List TranscriptEntry) :
    ∀ step ∈ (coordinator.replay entries).2, step.Agrees coordinator.settings.swap.policy := by
  induction entries generalizing coordinator with
  | nil => exact fun _ found => nomatch found
  | cons entry entries ih =>
      have later := ih (coordinator.replayEntry entry).1
      have settings : (coordinator.replayEntry entry).1.settings = coordinator.settings :=
        coordinator.handle_settings entry.event _
      rw [settings] at later
      exact List.forall_mem_cons.mpr ⟨coordinator.replay_entry_agrees entry, later⟩

theorem replay_records (coordinator : Coordinator P T) (entries : List TranscriptEntry) :
    (coordinator.replay entries).2.map (fun step => (step.line, step.event, step.status)) =
      entries.map fun entry => (entry.line, entry.event, entry.transaction.status) := by
  induction entries generalizing coordinator with
  | nil => rfl
  | cons entry entries ih => exact congrArg (_ :: ·) (ih (coordinator.replayEntry entry).1)

theorem replay_running (coordinator : Coordinator P T) (entries : List TranscriptEntry) :
    ProgressIndicator.isStarted (coordinator.replay entries).1.progress =
      ((coordinator.replay entries).2.getLast?.map (·.progressRunning)).getD
        (ProgressIndicator.isStarted coordinator.progress) := by
  induction entries generalizing coordinator with
  | nil => rfl
  | cons entry entries ih =>
      simp only [replay, List.getLast?_cons, Option.map_some, Option.getD_some]
      rw [ih]
      cases ((coordinator.replayEntry entry).1.replay entries).2.getLast? <;> rfl

end

theorem replay_live_records (coordinator : Coordinator TerminalBar ToastQueue) (pause : Duration)
    (entries : List TranscriptEntry) :
    ((coordinator.replayLive pause entries).2.map (·.step)).map (fun step => (step.line, step.event, step.status)) =
      entries.map fun entry => (entry.line, entry.event, entry.transaction.status) := by
  induction entries generalizing coordinator with
  | nil => rfl
  | cons entry entries ih => exact congrArg (_ :: ·) (ih ((coordinator.replayEntry entry).1.pass pause).1)

theorem replay_toasts {P : Type} [ProgressIndicator P] (coordinator : Coordinator P ToastQueue)
    (entries : List TranscriptEntry) :
    (coordinator.replay entries).1.toasts.toasts.map (·.text) =
      coordinator.toasts.toasts.map (·.text) ++ (coordinator.replay entries).2.filterMap (·.reaction.toastText) := by
  induction entries generalizing coordinator with
  | nil => exact (List.append_nil _).symm
  | cons entry entries ih =>
      have shown : (coordinator.replayEntry entry).1.toasts.toasts.map (·.text) =
          coordinator.toasts.toasts.map (·.text) ++ (coordinator.replayEntry entry).2.reaction.toastText.toList := by
        have toasts := coordinator.handle_toasts entry.event (EventDetail.ofTransaction entry.transaction)
        simp only [replayEntry]
        rw [toasts, present_all_queue, List.map_append, Reaction.toast?, ← Option.toList_map, Option.map_map]
        congr 2
        exact Option.map_id'
      simp only [replay]
      rw [ih, shown, List.append_assoc]
      congr 1
      cases spoken : (coordinator.replayEntry entry).2.reaction.toastText <;> simp [spoken]

end Coordinator

namespace ReplayReport

theorem count_events_sum (report : ReplayReport) :
    report.countEvents .beforeSend + report.countEvents .afterRequest + report.countEvents .sendError +
      report.countEvents .beforeSwap = report.steps.length := by
  obtain ⟨steps, toasts, running⟩ := report
  induction steps with
  | nil => rfl
  | cons step steps ih =>
      simp only [countEvents, List.countP_cons, List.length_cons] at ih ⊢
      cases step.event <;> simp <;> omega

theorem swap_place (report : ReplayReport) :
    report.stepsTable.columns.findIdx? (fun column => column.header.shows "Swap") = some 4 := by
  change (stepsTable ⟨[], [], false⟩).columns.findIdx? (fun column => column.header.shows "Swap") = some 4
  decide +kernel

theorem swap_column (report : ReplayReport) : report.stepsTable.under "Swap" = report.steps.map swapCell := by
  have rows : report.stepsTable.rows = report.steps.map stepRow := rfl
  have cells : (fun row : List Cell => row[4]?) ∘ stepRow = some ∘ swapCell := rfl
  rw [Table.under, swap_place]
  dsimp only
  rw [rows, List.filterMap_map, cells, List.filterMap_eq_map]

theorem swap_cell_shows_no (step : ReplayStep) :
    (swapCell step).shows "no" = (step.event == .beforeSwap && !step.shouldSwap) := by
  have none : (dimCell "-").shows "no" = false := by decide +kernel
  have yes : (colouredCell .green "yes").shows "no" = false := by decide +kernel
  have no : (colouredCell .yellow "no").shows "no" = true := by decide +kernel
  unfold swapCell
  by_cases swap : step.event = .beforeSwap
  · cases shouldSwap : step.shouldSwap <;> simp [swap, yes, no]
  · simp [swap, none]

end ReplayReport

theorem replay_report_consistent (settings : FeedbackSettings) (bytes : List UInt8) (entries : List TranscriptEntry)
    (parsed : Transcript.parse bytes = .ok entries) :
    let report := ReplayReport.ofEntries settings entries
    let refused := fun step : ReplayStep => !step.shouldSwap
    (∀ (options : ReplayOptions) (within : Option LogSpan),
      (replayEntries { options with live := false } settings entries within).2 = report) ∧
    report.steps.map (fun step => (step.line, step.event, step.status)) =
      entries.map (fun entry => (entry.line, entry.event, entry.transaction.status)) ∧
    (report.steps.map (·.line)).Pairwise (· < ·) ∧ (∀ step ∈ report.steps, 1 ≤ step.line) ∧
    report.countEvents .beforeSend + report.countEvents .afterRequest + report.countEvents .sendError +
      report.countEvents .beforeSwap = report.steps.length ∧
    report.suppressedSwaps = report.steps.countP refused ∧
    (report.stepsTable.under "Swap").countP (·.shows "no") = report.steps.countP refused ∧
    entries.countP (fun entry =>
      entry.event == .beforeSwap && settings.swap.policy.suppresses entry.transaction.status) =
      report.steps.countP refused ∧
    (∀ step ∈ report.steps, step.event ≠ .beforeSwap → step.shouldSwap = true) ∧
    report.toasts.map (·.text) = report.steps.filterMap (·.reaction.toastText) ∧
    report.toasts.length = report.countEvents .sendError + report.steps.countP (·.reaction.showsMessage) ∧
    report.progressRunning = (report.steps.getLast?.map (·.progressRunning)).getD false := by
  intro report refused
  let start := Coordinator.ofSettings settings
  have records : report.steps.map (fun step => (step.line, step.event, step.status)) =
      entries.map fun entry => (entry.line, entry.event, entry.transaction.status) := start.replay_records entries
  have agrees : ∀ step ∈ report.steps, step.Agrees settings.swap.policy := start.replay_agrees entries
  have texts : report.toasts.map (·.text) = report.steps.filterMap (·.reaction.toastText) :=
    start.replay_toasts entries
  have lines : report.steps.map (·.line) = entries.map (·.line) := by
    have firsts := congrArg (List.map Prod.fst) records
    rw [List.map_map, List.map_map] at firsts
    exact firsts
  obtain ⟨least, rising⟩ := Transcript.read_lines_rising parsed
  have isRefused : ∀ step ∈ report.steps, refused step = step.isRefused settings.swap.policy := fun step found => by
    change (!step.shouldSwap) = _
    rw [(agrees step found).swap, Bool.not_not]
  refine ⟨fun _ _ => rfl, records, ?_, ?_, report.count_events_sum, ?_, ?_, ?_, ?_, texts, ?_,
    start.replay_running entries⟩
  · rw [lines]
    exact List.pairwise_map.mpr rising
  · intro step found
    have inLines : step.line ∈ entries.map (·.line) := lines ▸ List.mem_map_of_mem found
    obtain ⟨entry, present, same⟩ := List.mem_map.mp inLines
    exact same ▸ least entry present
  · refine List.countP_congr fun step found => ?_
    rw [(agrees step found).suppressed, isRefused step found]
  · -- The cell says no where the event is one before a swap; no other step is refused.
    rw [report.swap_column, List.countP_map]
    refine List.countP_congr fun step found => ?_
    rw [isRefused step found, Function.comp_apply, ReplayReport.swap_cell_shows_no, (agrees step found).swap,
      Bool.not_not]
    simp [ReplayStep.isRefused]
  · -- The event and the status of an entry are those of its step.
    have same := congrArg (List.countP fun record : Nat × LifecycleEvent × UInt16 =>
      record.2.1 == .beforeSwap && settings.swap.policy.suppresses record.2.2) records
    rw [List.countP_map, List.countP_map] at same
    refine same.symm.trans (List.countP_congr fun step found => ?_)
    rw [isRefused step found]
    rfl
  · intro step found other
    rw [(agrees step found).swap]
    simp [ReplayStep.isRefused, other]
  · have count := congrArg List.length texts
    rw [List.length_map, List.length_filterMap_eq_countP] at count
    rw [count]
    exact count_parts _ _ _ report.steps fun step found => (agrees step found).spoken

-- Three events with comments between them: one is refused its swap, and two show a toast.
theorem report_of_three_events :
    let gone : Transaction := ⟨404, "\x7b\"error\":\"gone\"\x7d", .empty⟩
    let entries : List TranscriptEntry :=
      [⟨1, .beforeSend, .unsent⟩, ⟨3, .beforeSwap, gone⟩, ⟨5, .sendError, .unsent⟩]
    let bytes := Text.encode (entries.flatMap fun entry => entry.toJson.compact ++ "\n# next\n".toList)
    let report := ReplayReport.ofEntries .default entries
    Transcript.parse bytes = .ok entries ∧ report.suppressedSwaps = 1 ∧
      (report.stepsTable.under "Swap").countP (·.shows "no") = 1 ∧ report.toasts.length = 2 ∧
      report.progressRunning = true := by
  intro gone entries bytes report
  have parsed : Transcript.parse bytes = .ok entries := by
    have read : (Transcript.parse bytes).toOption = some entries := by decide +kernel
    cases result : Transcript.parse bytes with
    | error error =>
        rw [result] at read
        cases read
    | ok others =>
        rw [result] at read
        exact congrArg Except.ok (Option.some.inj read)
  obtain ⟨_, _, _, _, _, refusals, cells, _, _, _, shown, running⟩ :=
    replay_report_consistent .default bytes entries parsed
  have refused : report.steps.countP (fun step => !step.shouldSwap) = 1 := by decide +kernel
  refine ⟨parsed, refusals.trans refused, cells.trans refused, shown.trans ?_, running.trans ?_⟩
  · decide +kernel
  · decide +kernel

end PageFeedback
