import PageFeedback.Proofs.Json.Printer
import PageFeedback.Proofs.Json.Record
import PageFeedback.Proofs.Text.Blank
import PageFeedback.Transcript

set_option autoImplicit false

namespace PageFeedback

namespace Headers

theorem eq_of_entries {a b : Headers} (same : a.entries = b.entries) : a = b := by
  cases a
  cases b
  cases same
  rfl

theorem insert_each_entries (headers : Headers) (entries : List (String × String)) :
    (entries.foldl (fun headers entry => headers.insert entry.1 entry.2) headers).entries =
      entries.foldl (fun sorted entry => insertMember entry.1 entry.2 sorted) headers.entries := by
  induction entries generalizing headers with
  | nil => rfl
  | cons entry entries ih => exact ih (headers.insert entry.1 entry.2)

theorem of_list_entries (headers : Headers) : ofList headers.entries = headers := by
  apply eq_of_entries
  rw [ofList, insert_each_entries]
  exact insert_each_of_ascending [] headers.entries headers.ascending

end Headers

theorem Transaction.record_reads (transaction : Transaction) :
    Json.Reads Transaction.record.read transaction.toJson transaction := by
  obtain ⟨status, responseText, headers⟩ := transaction
  have fills : Transaction.record.Fills [] unsent
      [("status", .number (.integer (.ofUInt16 status))), ("responseText", .string responseText),
        ("headers", .object (headers.entries.map fun entry => (entry.1, .string entry.2)))]
      ["headers", "responseText", "status"] ⟨status, responseText, Headers.ofList headers.entries⟩ :=
    .member rfl (by decide) (Json.reads_field (Json.reads_uint16 status))
      (.member rfl (by decide) (Json.reads_field (Json.reads_string responseText))
        (.member rfl (by decide) (Json.reads_field (Json.reads_strings headers.entries headers.ascending))
          (.all _ _)))
  rw [Headers.of_list_entries] at fills
  exact fills.reads_object (by decide)

namespace TranscriptEntry

theorem name_is_read (event : LifecycleEvent) : LifecycleEvent.ofName event.domName = .ok event := by
  cases event <;> rfl

theorem read_event_string (name : String) (layout : Json.Layout) (level : Nat) {blanks : List Char}
    (spaces : Json.Spaces blanks) (rest : List Char) (ends : Json.Number.EndsNumber rest) :
    readEvent (blanks ++ (layout.print level (.string name) ++ rest)) =
      match LifecycleEvent.ofName name with
      | .ok event => .ok (event, rest)
      | .error unknown => .error (Json.refusal unknown.message rest) := by
  rw [readEvent, Json.reads_string name layout level blanks rest spaces ends]
  rfl

def named (name : String) (transaction : Transaction) : Json :=
  .object [("event", .string name), ("xhr", transaction.toJson)]

theorem reads_named {name : String} {event : LifecycleEvent} (known : LifecycleEvent.ofName name = .ok event)
    (transaction : Transaction) :
    Json.Reads TranscriptEntry.record.read (named name transaction) ⟨0, event, transaction⟩ := by
  have reads : Json.Reads readEvent (.string name) event := by
    intro layout level blanks rest spaces ends
    rw [read_event_string name layout level spaces rest ends, known]
  have fills : TranscriptEntry.record.Fills [] TranscriptEntry.record.blank
      [("event", .string name), ("xhr", transaction.toJson)] ["xhr", "event"] ⟨0, event, transaction⟩ :=
    .member rfl (by decide) (Json.reads_field reads)
      (.member rfl (by decide) (Json.reads_field (Transaction.record_reads transaction)) (.all _ _))
  exact fills.reads_object (by decide)

theorem refuses_unnamed {name : String} {unknown : UnknownEvent} (refused : LifecycleEvent.ofName name = .error unknown)
    (transaction : Transaction) (layout : Json.Layout) (level : Nat) :
    ∃ error, Json.readAll TranscriptEntry.record.read (layout.print level (named name transaction)) = .error error := by
  let others := layout.membersFrom level false [("xhr", transaction.toJson)] ++ ['}']
  have value := read_event_string name layout (level + 1) layout.afterColonSpaces others
    (layout.members_end_number level [("xhr", transaction.toJson)] [])
  rw [refused] at value
  let field := Json.Field.of "event" true readEvent fun (entry : TranscriptEntry) event => { entry with event }
  have known : TranscriptEntry.record.fields.find? (fun field => field.name == "event") = some field := rfl
  have fieldRead : field.read TranscriptEntry.record.blank
      (layout.afterColon ++ (layout.print (level + 1) (.string name) ++ others)) =
        .error (Json.refusal unknown.message others) := by
    change (readEvent _).map _ = _
    rw [value]
    rfl
  have text : layout.print level (named name transaction) =
      [] ++ '{' :: (layout.membersFrom level true [("event", .string name), ("xhr", transaction.toJson)] ++ ['}']) := by
    rw [List.nil_append, ← layout.object_append, List.append_nil]
    rfl
  have opened : TranscriptEntry.record.read (layout.print level (named name transaction)) = _ :=
    text ▸ Json.Record.read_of_object Json.no_spaces _
  rw [Json.Record.members_of_known known List.not_mem_nil, fieldRead] at opened
  rw [Json.readAll, opened]
  exact ⟨_, rfl⟩

theorem record_reads (entry : TranscriptEntry) :
    Json.Reads TranscriptEntry.record.read entry.toJson { entry with line := 0 } :=
  reads_named (name_is_read entry.event) entry.transaction

theorem read_all_compact (entry : TranscriptEntry) :
    Json.readAll TranscriptEntry.record.read entry.toJson.compact = .ok { entry with line := 0 } :=
  entry.record_reads.read_all .tight 0

theorem compact_between_braces (entry : TranscriptEntry) : ∃ inner, entry.toJson.compact = '{' :: (inner ++ ['}']) :=
  ⟨_, rfl⟩

end TranscriptEntry

end PageFeedback
