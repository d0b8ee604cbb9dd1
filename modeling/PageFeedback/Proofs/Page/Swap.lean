import PageFeedback.Proofs.Coordinator
import PageFeedback.Proofs.Json.Grammar
import PageFeedback.Proofs.Json.Normal
import PageFeedback.Proofs.Json.Printer

set_option autoImplicit false

namespace PageFeedback

namespace Json

inductive IsFalsy : Json → Prop
  | null : IsFalsy .null
  | false : IsFalsy (.bool false)
  | empty : IsFalsy (.string "")
  | whole {n : Integer} (zero : n.value = 0) : IsFalsy (.number (.integer n))
  -- Zero of either sign, and what was rounded to it.
  | real (negative : Bool) : IsFalsy (.number (.real negative Magnitude.zero))

def shown : Json → String
  | .string text => text
  | other => other.compactText

-- The members of a text that is an object, in the order in which they are written and with
-- repeated names. What nests in an object may nest one level less.
def writtenMembers? (text : String) : Option (List (String × Json)) :=
  match skipSpace text.toList with
  | '{' :: start =>
      match readMembers (readValue (depthLimit - 1)) (start.length + 1) true start with
      | .ok (members, unread) => (readEnd unread).toOption.map fun _ => members
      | .error _ => none
  | _ => none

def lastWritten? (name text : String) : Option Json :=
  (writtenMembers? text).bind fun members => members.reverse.lookup name

theorem integer_is_zero (n : Integer) : (Number.integer n).toBinary64.isZero = true ↔ n.value = 0 :=
  (Binary64.ratio_is_zero (decide (n.value < 0)) n.value.natAbs Binary64.units_in_one_positive).trans Int.natAbs_eq_zero

theorem number_is_zero (value : Number) : value.toBinary64.isZero = true ↔ IsFalsy (.number value) := by
  cases value with
  | integer n =>
      rw [integer_is_zero]
      refine ⟨.whole, fun falsy => ?_⟩
      cases falsy with
      | whole zero => exact zero
  | real negative size =>
      constructor
      · intro isZero
        rw [size.eq_zero_of_significand (beq_iff_eq.mp isZero)]
        exact .real negative
      · intro falsy
        cases falsy
        rfl

theorem falsy_or_shown (value : Json) :
    value.IsFalsy ∧ errorMessage value = none ∨ ¬ value.IsFalsy ∧ errorMessage value = some value.shown := by
  cases value with
  | null => exact .inl ⟨.null, rfl⟩
  | bool value =>
      cases value with
      | false => exact .inl ⟨.false, rfl⟩
      | true => exact .inr ⟨(fun falsy => nomatch falsy), rfl⟩
  | number value =>
      rw [errorMessage, ← number_is_zero]
      by_cases zero : value.toBinary64.isZero = true
      · exact .inl ⟨zero, if_pos zero⟩
      · exact .inr ⟨zero, if_neg zero⟩
  | string own =>
      by_cases empty : own = ""
      · subst empty
        exact .inl ⟨.empty, rfl⟩
      · refine .inr ⟨fun falsy => ?_, if_neg empty⟩
        cases falsy
        exact empty rfl
  | array items => exact .inr ⟨(fun falsy => nomatch falsy), rfl⟩
  | object members => exact .inr ⟨(fun falsy => nomatch falsy), rfl⟩

theorem error_message_iff (value : Json) (text : String) :
    errorMessage value = some text ↔ ¬ value.IsFalsy ∧ text = value.shown := by
  obtain ⟨falsy, none⟩ | ⟨truthy, told⟩ := value.falsy_or_shown
  · rw [none]
    exact iff_of_false (fun same => nomatch same) fun told => told.1 falsy
  · rw [told, Option.some_inj, eq_comm]
    exact (and_iff_right truthy).symm

theorem no_error_message_iff (value : Json) : errorMessage value = none ↔ value.IsFalsy := by
  obtain ⟨falsy, none⟩ | ⟨truthy, told⟩ := value.falsy_or_shown
  · exact iff_of_true none falsy
  · rw [told]
    exact iff_of_false (fun same => nomatch same) truthy

section

variable {text : String}

theorem written_members_iff {written : List (String × Json)} :
    writtenMembers? text = some written ↔
      ∃ start unread, skipSpace text.toList = '{' :: start ∧
        readMembers (readValue (depthLimit - 1)) (start.length + 1) true start = .ok (written, unread) ∧
        readEnd unread = .ok () := by
  constructor
  · intro found
    rw [writtenMembers?] at found
    split at found
    next start opened =>
      split at found
      next members unread read =>
        refine ⟨start, unread, opened, ?_⟩
        cases ended : readEnd unread with
        | error fault => rw [ended] at found; cases found
        | ok done =>
            rw [ended] at found
            cases found
            exact ⟨read, rfl⟩
      next => cases found
    next => cases found
  · rintro ⟨start, unread, opened, read, ended⟩
    rw [writtenMembers?, opened]
    simp only [read, ended]
    rfl

theorem parse_object_iff {members : List (String × Json)} :
    parse text = .ok (.object members) ↔ ∃ written, writtenMembers? text = some written ∧ members = byName written := by
  simp only [written_members_iff]
  constructor
  · intro parsed
    rw [parse, readAll] at parsed
    split at parsed
    · cases parsed
    next value unread read =>
      split at parsed
      · cases parsed
      next ended =>
        cases parsed
        cases read_value_comes read with
        | object opened membersRead => exact ⟨_, ⟨_, _, opened, membersRead, ended⟩, rfl⟩
  · rintro ⟨written, ⟨start, unread, opened, read, ended⟩, rfl⟩
    have value : readValue depthLimit text.toList = .ok (.object (byName written), unread) := by
      rw [depthLimit, value_of_opened 126 opened]
      exact congrArg (Except.map _) read
    rw [parse, readAll, value]
    simp only [ended]

theorem member_of_parsed {value : Json} (parsed : parse text = .ok value) (name : String) :
    value.member? name = lastWritten? name text := by
  cases value with
  | object members =>
      obtain ⟨written, found, rfl⟩ := parse_object_iff.mp parsed
      rw [lastWritten?, found]
      exact by_name_lookup name written
  | _ =>
      rw [lastWritten?]
      cases found : writtenMembers? text with
      | none => rfl
      | some written =>
          rw [parse_object_iff.mpr ⟨written, found, rfl⟩] at parsed
          cases parsed

theorem last_written_iff {name : String} {value : Json} :
    lastWritten? name text = some value ↔
      ∃ members, parse text = .ok (.object members) ∧ members.lookup name = some value := by
  constructor
  · intro found
    obtain ⟨written, members, last⟩ := Option.bind_eq_some_iff.mp found
    exact ⟨byName written, parse_object_iff.mpr ⟨written, members, rfl⟩, (by_name_lookup name written).trans last⟩
  · rintro ⟨members, parsed, last⟩
    exact (member_of_parsed parsed name).symm.trans last

theorem last_written_normal {name : String} {value : Json} (found : lastWritten? name text = some value) :
    Normal depthLimit value := by
  obtain ⟨members, parsed, last⟩ := last_written_iff.mp found
  obtain ⟨before, after, split, -⟩ := List.lookup_eq_some_iff.mp last
  have normal : Normal (126 + 1) (.object members) := parse_normal parsed
  cases normal with
  | object ascending each => exact (each (name, value) (by simp [split])).deeper

end

structure IsShownAs (value : Json) (text : String) : Prop where
  string : ∀ own, value = .string own → text = own
  notEmpty : (∀ own, value ≠ .string own) → text ≠ ""
  written : (∀ own, value ≠ .string own) → IsText text.toList
  readAgain : (∀ own, value ≠ .string own) → OnlyWhole value → parse text = .ok value

theorem Normal.is_shown {value : Json} (normal : Normal depthLimit value) : IsShownAs value value.shown := by
  have other : (∃ own, value = .string own) ∨ value.shown = value.compactText ∧ ∀ own, value ≠ .string own := by
    cases value with
    | string own => exact .inl ⟨own, rfl⟩
    | _ => exact .inr ⟨rfl, fun own same => nomatch same⟩
  obtain ⟨own, rfl⟩ | ⟨compact, notString⟩ := other
  · exact ⟨fun _ same => Json.string.inj same, fun no => absurd rfl (no own), fun no => absurd rfl (no own),
      fun no => absurd rfl (no own)⟩
  · rw [compact]
    refine ⟨fun own same => absurd same (notString own), fun _ => value.compact_text_ne_empty, fun _ => ?_,
      fun _ => normal.parse_compact⟩
    rw [compactText, String.toList_ofList]
    exact value.compact_is_text

end Json

namespace Coordinator

section

variable {body : String}

theorem suppression_of_fault {error : Json.Error} (rejected : Json.parse body = .error error) :
    suppressionOf body = .malformedBody error.message := by
  rw [suppressionOf, rejected]

theorem suppression_of_value {value : Json} (parsed : Json.parse body = .ok value) :
    suppressionOf body =
      (((Json.lastWritten? "error" body).bind errorMessage).map Suppression.message).getD .silent := by
  rw [suppressionOf, parsed, ← Json.member_of_parsed parsed]
  dsimp only
  cases (value.member? "error").bind errorMessage <;> rfl

theorem suppression_malformed_iff (reason : String) :
    suppressionOf body = .malformedBody reason ↔ ∃ error, Json.parse body = .error error ∧ reason = error.message := by
  cases parsed : Json.parse body with
  | error error => simp [suppression_of_fault parsed, eq_comm]
  | ok value =>
      rw [suppression_of_value parsed]
      cases (Json.lastWritten? "error" body).bind errorMessage <;> simp

theorem suppression_message_iff (text : String) :
    suppressionOf body = .message text ↔
      ∃ value, Json.lastWritten? "error" body = some value ∧ ¬ value.IsFalsy ∧ text = value.shown := by
  simp only [← Json.error_message_iff, ← Option.bind_eq_some_iff]
  cases parsed : Json.parse body with
  | error error =>
      have unwritten : Json.lastWritten? "error" body = none := by
        refine Option.eq_none_iff_forall_ne_some.mpr fun value found => ?_
        obtain ⟨members, read, -⟩ := Json.last_written_iff.mp found
        exact nomatch parsed.symm.trans read
      simp [suppression_of_fault parsed, unwritten]
  | ok value =>
      rw [suppression_of_value parsed]
      cases (Json.lastWritten? "error" body).bind errorMessage <;> simp

theorem suppression_silent_iff :
    suppressionOf body = .silent ↔
      (∃ value, Json.parse body = .ok value) ∧ ∀ value, Json.lastWritten? "error" body = some value → value.IsFalsy := by
  cases parsed : Json.parse body with
  | error error => simp [suppression_of_fault parsed]
  | ok value =>
      have silent : suppressionOf body = .silent ↔ (Json.lastWritten? "error" body).bind errorMessage = none := by
        rw [suppression_of_value parsed]
        cases (Json.lastWritten? "error" body).bind errorMessage <;> simp
      rw [silent, Option.bind_eq_none_iff]
      simp only [Json.no_error_message_iff]
      exact ⟨fun falsy => ⟨⟨value, rfl⟩, falsy⟩, And.right⟩

theorem suppression_of_equal_errors {other : String} {members others : List (String × Json)}
    (parsed : Json.parse body = .ok (.object members)) (parsedOther : Json.parse other = .ok (.object others))
    (same : members.lookup "error" = others.lookup "error") : suppressionOf body = suppressionOf other := by
  rw [suppressionOf, suppressionOf, parsed, parsedOther]
  simp only [Json.member?, same]

end

end Coordinator

theorem swap_decided_by_status_and_body {P T : Type} [ProgressIndicator P] [ToastSink T]
    (coordinator : Coordinator P T) (detail : EventDetail) :
    let body := detail.transaction.responseText
    let suppresses := coordinator.settings.swap.policy.suppresses detail.transaction.status
    let result := coordinator.handle .beforeSwap detail
    (result.2.2 = .swapAllowed ↔ suppresses = false) ∧
    (suppresses = false → result = (coordinator, detail, .swapAllowed)) ∧
    (suppresses = true → ∃ suppression,
      let reaction : Reaction := .swapSuppressed suppression
      let toasts := presentAll coordinator.toasts (reaction.toast? coordinator.settings.toast).toList
      result = ({ coordinator with toasts }, { detail with shouldSwap := false }, reaction) ∧
      (∀ reason, suppression = .malformedBody reason ↔
        ∃ error, Json.parse body = .error error ∧ reason = error.message) ∧
      (∀ text, suppression = .message text ↔
        ∃ value, Json.lastWritten? "error" body = some value ∧ ¬ value.IsFalsy ∧ text = value.shown) ∧
      (suppression = .silent ↔ (∃ value, Json.parse body = .ok value) ∧
        ∀ value, Json.lastWritten? "error" body = some value → value.IsFalsy)) ∧
    (∀ value, Json.lastWritten? "error" body = some value ↔
      ∃ members, Json.parse body = .ok (.object members) ∧ members.lookup "error" = some value) ∧
    (∀ value, Json.lastWritten? "error" body = some value → value.IsShownAs value.shown) ∧
    ∀ other : EventDetail, other.transaction.status = detail.transaction.status →
      ∀ members others, Json.parse body = .ok (.object members) →
        Json.parse other.transaction.responseText = .ok (.object others) →
        members.lookup "error" = others.lookup "error" →
        let otherResult := coordinator.handle .beforeSwap other
        otherResult.1 = result.1 ∧ otherResult.2.2 = result.2.2 := by
  intro body suppresses result
  have allowed (no : suppresses = false) : result = (coordinator, detail, .swapAllowed) :=
    coordinator.before_swap_allowed detail no
  have suppressed (yes : suppresses = true) := coordinator.before_swap_suppressed detail yes
  refine ⟨⟨fun swapped => ?_, fun no => by rw [allowed no]⟩, allowed, fun yes => ?_,
    fun value => Json.last_written_iff, fun value found => (Json.last_written_normal found).is_shown, ?_⟩
  · refine Bool.eq_false_iff.mpr fun yes => ?_
    rw [show result = _ from suppressed yes] at swapped
    cases swapped
  · exact ⟨_, suppressed yes, Coordinator.suppression_malformed_iff, Coordinator.suppression_message_iff,
      Coordinator.suppression_silent_iff⟩
  · intro other status members others parsed parsedOther same
    exact coordinator.before_swap_same other detail status
      (Coordinator.suppression_of_equal_errors parsedOther parsed same.symm)

theorem last_error_shown :
    let value : Json := .object [("code", .array [.number (.integer (.ofNat 7)), .string "\n"])]
    let body := (Json.object [("error", .string "first"), ("error", value)]).compactText
    let detail : EventDetail := ⟨⟨422, body, .empty⟩, true⟩
    let fresh := Coordinator.ofSettings .default
    fresh.settings.swap.policy.suppresses detail.transaction.status = true ∧
    Json.lastWritten? "error" body = some value ∧ ¬ value.IsFalsy ∧ value.OnlyWhole ∧
      (fresh.handle .beforeSwap detail).2 =
        ({ detail with shouldSwap := false }, .swapSuppressed (.message "\x7b\"code\":[7,\"\\n\"]\x7d")) ∧
      Json.parse "\x7b\"code\":[7,\"\\n\"]\x7d" = .ok value := by
  intro value body detail fresh
  have suppressed : fresh.settings.swap.policy.suppresses detail.transaction.status = true := rfl
  have fits : value.Fits 126 :=
    .object (List.forall_mem_singleton.mpr (.array (List.forall_mem_cons.mpr
      ⟨.integer _ _, List.forall_mem_singleton.mpr (.string _ _)⟩)))
  have whole : value.OnlyWhole :=
    .object (List.forall_mem_singleton.mpr (.array (List.forall_mem_cons.mpr
      ⟨.integer _, List.forall_mem_singleton.mpr (.string _)⟩)))
  have bodyFits : (Json.object [("error", .string "first"), ("error", value)]).Fits Json.depthLimit :=
    .object (List.forall_mem_cons.mpr ⟨.string _ _, List.forall_mem_singleton.mpr fits⟩)
  have ordered : (Json.object [("error", .string "first"), ("error", value)]).ordered = .object [("error", value)] := by
    simp only [value]
    rfl
  have parsed : Json.parse body = .ok (.object [("error", value)]) := ordered ▸ bodyFits.parse_compact
  have last : Json.lastWritten? "error" body = some value := Json.last_written_iff.mpr ⟨_, parsed, rfl⟩
  have truthy : ¬ value.IsFalsy := by
    change ¬ (Json.object _).IsFalsy
    intro falsy
    cases falsy
  have text : "\x7b\"code\":[7,\"\\n\"]\x7d" = value.shown := by decide +kernel
  obtain ⟨-, -, answer, -, shown, -⟩ := swap_decided_by_status_and_body fresh detail
  obtain ⟨suppression, result, -, message, -⟩ := answer suppressed
  refine ⟨suppressed, last, truthy, whole, ?_, ?_⟩
  · rw [result, (message _).mpr ⟨value, last, truthy, text⟩]
  · rw [text]
    exact (shown value last).readAgain (fun own same => nomatch same) whole

end PageFeedback
