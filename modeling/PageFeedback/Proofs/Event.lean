import PageFeedback.Proofs.Text.Blank
import PageFeedback.Proofs.Transcript.Entry

set_option autoImplicit false

namespace PageFeedback

namespace LifecycleEvent

def mark : List Char := "htmx:".toList

def IsName (event : LifecycleEvent) (written : List Char) : Prop :=
  written = event.domName.toList ∨ mark ++ written = event.domName.toList

instance (event : LifecycleEvent) (written : List Char) : Decidable (event.IsName written) :=
  inferInstanceAs (Decidable (_ ∨ _))

theorem mem_all (event : LifecycleEvent) : event ∈ all := by cases event <;> decide

theorem dom_name_marked (event : LifecycleEvent) : event.domName.toList = mark ++ event.shortName.toList := by
  cases event <;> rfl

theorem short_name_unmarked (event : LifecycleEvent) : Text.after? mark event.shortName.toList = none := by
  cases event <;> rfl

theorem short_name_injective {event other : LifecycleEvent} (same : event.shortName.toList = other.shortName.toList) :
    event = other := by
  cases event <;> cases other <;> simp [shortName] at same ⊢

theorem is_name_iff (event : LifecycleEvent) (written : List Char) :
    event.IsName written ↔ event.shortName.toList = withoutMarker written := by
  rw [IsName, dom_name_marked, List.append_cancel_left_eq, withoutMarker]
  change _ ↔ _ = (Text.after? mark written).getD written
  constructor
  · rintro (rfl | rfl)
    · rw [Text.after_append]
      rfl
    · rw [short_name_unmarked]
      rfl
  · intro same
    cases marked : Text.after? mark written with
    | none =>
        rw [marked] at same
        exact .inr same.symm
    | some rest =>
        rw [marked] at same
        left
        rw [Text.eq_append_of_after mark written rest marked]
        exact congrArg (mark ++ ·) same.symm

theorem of_name_iff (name : String) (event : LifecycleEvent) :
    ofName name = .ok event ↔ event.IsName (Text.trim name.toList) := by
  rw [is_name_iff, ofName]
  split
  next found known =>
    have same : found.shortName.toList = withoutMarker (Text.trim name.toList) := by simpa using List.find?_some known
    constructor
    · intro answer
      cases answer
      exact same
    · intro called
      rw [short_name_injective (called.trans same.symm)]
  next missing =>
    refine iff_of_false (fun answer => nomatch answer) fun called => ?_
    exact List.find?_eq_none.mp missing event event.mem_all (beq_iff_eq.mpr called)

theorem of_name_unknown {name : String} (unknown : ∀ event : LifecycleEvent, ¬ event.IsName (Text.trim name.toList)) :
    ofName name = .error ⟨String.ofList (Text.trim name.toList)⟩ := by
  rw [ofName]
  split
  next found known =>
    have same : found.shortName.toList = withoutMarker (Text.trim name.toList) := by simpa using List.find?_some known
    exact absurd ((found.is_name_iff _).mpr same) (unknown found)
  next => rfl

end LifecycleEvent

namespace TranscriptEntry

theorem read_event_iff (chars rest : List Char) (event : LifecycleEvent) :
    readEvent chars = .ok (event, rest) ↔
      ∃ name, Json.string? chars = .ok (name, rest) ∧ LifecycleEvent.ofName name = .ok event := by
  rw [readEvent]
  cases text : Json.string? chars with
  | error fault => simp [bind, Except.bind]
  | ok read =>
      obtain ⟨name, unread⟩ := read
      cases known : LifecycleEvent.ofName name with
      | error unknown => simp [bind, Except.bind, known]
      | ok called => simp [bind, Except.bind, pure, Except.pure, known, and_comm]

theorem read_named_iff (name : String) (transaction : Transaction) (event : LifecycleEvent) :
    Json.readAll TranscriptEntry.record.read (named name transaction).compact = .ok ⟨0, event, transaction⟩ ↔
      LifecycleEvent.ofName name = .ok event := by
  cases known : LifecycleEvent.ofName name with
  | error unknown =>
      obtain ⟨error, refused⟩ := refuses_unnamed known transaction .tight 0
      change Json.readAll _ (named name transaction).compact = _ at refused
      rw [refused]
      exact iff_of_false nofun nofun
  | ok called =>
      have read := (reads_named known transaction).read_all .tight 0
      change Json.readAll _ (named name transaction).compact = _ at read
      rw [read]
      simp

end TranscriptEntry

theorem event_names_by_grammar :
    (∀ name : String, ∃ written, Text.Trims name.toList written ∧
      (∀ event, LifecycleEvent.ofName name = .ok event ↔ event.IsName written) ∧
      ((∀ event : LifecycleEvent, ¬ event.IsName written) →
        LifecycleEvent.ofName name = .error ⟨String.ofList written⟩ ∧
        ∀ transaction, ∃ error,
          Json.readAll TranscriptEntry.record.read (TranscriptEntry.named name transaction).compact = .error error) ∧
      ∀ transaction event,
        Json.readAll TranscriptEntry.record.read (TranscriptEntry.named name transaction).compact =
          .ok ⟨0, event, transaction⟩ ↔ event.IsName written) ∧
    (∀ chars rest event, TranscriptEntry.readEvent chars = .ok (event, rest) ↔
      ∃ name written, Json.string? chars = .ok (name, rest) ∧ Text.Trims name.toList written ∧ event.IsName written) ∧
    (∀ event : LifecycleEvent, LifecycleEvent.ofName event.domName = .ok event) ∧
    ∀ entry : TranscriptEntry,
      Json.readAll TranscriptEntry.record.read entry.toJson.compact = .ok { entry with line := 0 } := by
  refine ⟨fun name => ?_, fun chars rest event => ?_, TranscriptEntry.name_is_read, TranscriptEntry.read_all_compact⟩
  · refine ⟨Text.trim name.toList, Text.trims_trim _, LifecycleEvent.of_name_iff name, fun unknown => ?_,
      fun transaction event => ?_⟩
    · have refused := LifecycleEvent.of_name_unknown unknown
      exact ⟨refused, fun transaction => TranscriptEntry.refuses_unnamed refused transaction .tight 0⟩
    · rw [TranscriptEntry.read_named_iff, LifecycleEvent.of_name_iff]
  · rw [TranscriptEntry.read_event_iff]
    constructor
    · rintro ⟨name, text, known⟩
      exact ⟨name, _, text, Text.trims_trim _, (LifecycleEvent.of_name_iff name event).mp known⟩
    · rintro ⟨name, written, text, trims, called⟩
      rw [← trims.trim_eq] at called
      exact ⟨name, text, (LifecycleEvent.of_name_iff name event).mpr called⟩

theorem names_of_padded_and_repeated :
    let repeated := "htmx:htmx:sendError"
    LifecycleEvent.sendError.IsName "sendError".toList ∧
      LifecycleEvent.ofName "\u2003sendError\r\n" = .ok .sendError ∧
      (∀ event : LifecycleEvent, ¬ event.IsName repeated.toList) ∧
      LifecycleEvent.ofName repeated = .error ⟨repeated⟩ := by
  intro repeated
  obtain ⟨padded, trims, accepts, -, -⟩ := event_names_by_grammar.1 "\u2003sendError\r\n"
  obtain ⟨written, trimsRepeated, -, refuses, -⟩ := event_names_by_grammar.1 repeated
  have first : padded = "sendError".toList := trims.trim_eq.symm.trans (by decide)
  have second : written = repeated.toList := trimsRepeated.trim_eq.symm.trans (by decide)
  rw [first] at accepts
  rw [second, String.ofList_toList] at refuses
  have named : LifecycleEvent.sendError.IsName "sendError".toList := by decide
  have unknown : ∀ event : LifecycleEvent, ¬ event.IsName repeated.toList := by
    intro event
    cases event <;> decide
  exact ⟨named, (accepts .sendError).mpr named, unknown, (refuses unknown).1⟩

end PageFeedback
