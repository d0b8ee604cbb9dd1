import PageFeedback.Json.Decoder
import PageFeedback.Proofs.Json.Members
import PageFeedback.Proofs.Members

set_option autoImplicit false

namespace PageFeedback.Json

theorem read_string_as (wanted : String) {blanks : List Char} (spaces : Spaces blanks) (text : String)
    (rest : List Char) :
    readStringAs wanted (blanks ++ (stringChars text.toList ++ rest)) = .ok (text, rest) := by
  rw [string_chars_append, readStringAs, skip_spaces (c := '"') spaces rfl]
  simp only [read_escaped_chars, Except.map, String.ofList_toList]

theorem reads_string (text : String) : Reads string? (.string text) text := by
  intro layout level blanks rest spaces _
  rw [layout.string]
  exact read_string_as "a string" spaces text rest

theorem reads_bool (value : Bool) : Reads bool? (.bool value) value := by
  intro layout level blanks rest spaces _
  rw [layout.bool, bool?]
  cases value with
  | true =>
      simp only [if_true, List.cons_append, skip_spaces (c := 't') spaces rfl]
      rfl
  | false =>
      simp only [Bool.false_eq_true, if_false, List.cons_append, skip_spaces (c := 'f') spaces rfl]
      rfl

theorem digit_visible {c : Char} (digit : c.isDigit = true) : isSpace c = false := by
  have apart (other : Char) (noDigit : other.isDigit = false) : c ≠ other := AreDigits.ne_of_digit digit noDigit
  simp [isSpace, apart ' ' rfl, apart '\n' rfl, apart '\t' rfl, apart '\r' rfl]

theorem read_natural (wanted : String) (limit : Nat) (n : Integer) {blanks : List Char} (spaces : Spaces blanks)
    (rest : List Char) (ends : Number.EndsNumber rest) (positive : 0 ≤ n.value) (fits : n.value < limit) :
    natural? wanted limit (blanks ++ ((Number.integer n).chars ++ rest)) = .ok (n.value.toNat, rest) := by
  have number := Number.read_integer n rest ends
  have written : (Number.integer n).chars = digits n.value.natAbs := if_neg (Int.not_lt.mpr positive)
  rw [written] at number ⊢
  have digits := digits_are_digits n.value.natAbs
  obtain ⟨first, more, split⟩ := List.exists_cons_of_ne_nil digits.present
  rw [split, List.cons_append] at number ⊢
  have digit : first.isDigit = true := digits.digit first (split ▸ List.mem_cons_self)
  rw [natural?, skip_spaces spaces (digit_visible digit)]
  simp [digit, number, positive, fits, bind, Except.bind, pure, Except.pure]

theorem reads_uint16 (value : UInt16) : Reads uint16? (.number (.integer (.ofUInt16 value))) value := by
  intro layout level blanks rest spaces ends
  have natural := read_natural "u16" (2 ^ 16) (.ofUInt16 value) spaces rest ends (Int.natCast_nonneg _)
    (Int.ofNat_lt.mpr value.toNat_lt)
  rw [layout.number, uint16?, natural]
  exact congrArg (fun read => Except.ok (read, rest)) UInt16.ofNat_toNat

theorem reads_uint64 (value : UInt64) : Reads uint64? (.number (.integer (.ofUInt64 value))) value := by
  intro layout level blanks rest spaces ends
  have natural := read_natural "u64" (2 ^ 64) (.ofUInt64 value) spaces rest ends (Int.natCast_nonneg _)
    (Int.ofNat_lt.mpr value.toNat_lt)
  rw [layout.number, uint64?, natural]
  exact congrArg (fun read => Except.ok (read, rest)) UInt64.ofNat_toNat

theorem reads_choice {α : Type} {values : List (String × α)} {label : String} {value : α}
    (listed : values.lookup label = some value) : Reads (choice? values) (.string label) value := by
  intro layout level blanks rest spaces _
  have named := read_string_as "variant identifier" no_spaces label rest
  rw [List.nil_append] at named
  rw [layout.string]
  rw [string_chars_append] at named ⊢
  rw [choice?, skip_spaces (c := '"') spaces rfl]
  simp only [choice?.named, named, listed, bind, Except.bind]
  rfl

theorem by_name_of_ascending {α : Type} (members : List (String × α)) (ascending : Ascending members) :
    byName members = members := insert_each_of_ascending [] members ascending

theorem strings_of_object {blanks : List Char} (spaces : Spaces blanks) (rest : List Char) :
    strings? (blanks ++ '{' :: rest) =
      (readMembers string? (rest.length + 1) true rest).map fun (members, unread) => (byName members, unread) := by
  rw [strings?, skip_spaces (c := '{') spaces rfl]
  rfl

theorem reads_strings (entries : List (String × String)) (ascending : Ascending entries) :
    Reads strings? (.object (entries.map fun entry => (entry.1, .string entry.2))) entries := by
  intro layout level blanks rest spaces _
  have enough := layout.members_fit level (entries.map fun entry => (entry.1, .string entry.2)) rest
  rw [List.length_map] at enough
  rw [layout.object_append, strings_of_object spaces,
    read_members string? .string id layout level entries (fun entry _ => reads_string entry.2) true _ rest enough]
  exact congrArg (fun members => Except.ok (members, rest))
    ((congrArg byName (List.map_id entries)).trans (by_name_of_ascending entries ascending))

section

variable {α β : Type}

theorem reads_field {name : String} {required : Bool} {reader : Reader β} {put : α → β → α} {record : α} {json : Json}
    {value : β} (reads : Reads reader json value) :
    Reads ((Field.of name required reader put).read record) json (put record value) := by
  intro layout level blanks rest spaces ends
  change (reader (blanks ++ (layout.print level json ++ rest))).map _ = _
  rw [reads layout level blanks rest spaces ends]
  rfl

namespace Record

variable {record : Record α}

-- Members fill in a record one by one: each is a field that was not seen yet, and fits it.
inductive Fills (record : Record α) : List String → α → List (String × Json) → List String → α → Prop
  | all (seen : List String) (value : α) : Fills record seen value [] seen value
  | member {seen last : List String} {value updated final : α} {name : String} {json : Json}
      {members : List (String × Json)} {field : Field α}
      (known : record.fields.find? (fun field => field.name == name) = some field) (fresh : name ∉ seen)
      (reads : Reads (field.read value) json updated) (rest : Fills record (name :: seen) updated members last final) :
      Fills record seen value ((name, json) :: members) last final

theorem members_of_known {seen : List String} {name : String} {field : Field α}
    (known : record.fields.find? (fun field => field.name == name) = some field) (fresh : name ∉ seen) (layout : Layout)
    (level : Nat) (first : Bool) (bound : Nat) (value : α) (json : Json) (members : List (String × Json))
    (rest : List Char) :
    record.members (bound + 1) first value seen (layout.membersFrom level first ((name, json) :: members) ++ '}' :: rest) =
      (field.read value (layout.afterColon ++
        (layout.print (level + 1) json ++ (layout.membersFrom level false members ++ '}' :: rest)))).bind
        fun (updated, rest) => record.members bound false updated (name :: seen) rest := by
  have unseen : seen.contains name = false := by simpa using fresh
  rw [members_from_cons, Record.members, next_name_of_member first (layout.gapSpaces (level + 1))]
  simp only [bind, Except.bind, read_escaped_chars, read_colon, String.ofList_toList, known, unseen]
  rfl

theorem Fills.read_members {seen last : List String} {value final : α} {members : List (String × Json)}
    (fills : Fills record seen value members last final) (layout : Layout) (level : Nat) (first : Bool) (bound : Nat)
    (rest : List Char) (enough : members.length < bound) :
    record.members bound first value seen (layout.membersFrom level first members ++ '}' :: rest) =
      .ok (final, last, '}' :: rest) := by
  induction fills generalizing first bound with
  | all seen value =>
      obtain ⟨bound, rfl⟩ := Nat.exists_eq_succ_of_ne_zero (Nat.ne_zero_of_lt enough)
      have stop := skip_space_at_end (c := '}') (layout.gapSpaces level) rfl first (layout.gap (level + 1)) rest
      simp [Record.members, nextName, Layout.membersFrom, stop, bind, Except.bind, pure, Except.pure]
  | @member seen last value updated final name json members field known fresh reads fills ih =>
      obtain ⟨bound, rfl⟩ := Nat.exists_eq_succ_of_ne_zero (Nat.ne_zero_of_lt enough)
      have valueRead := reads layout (level + 1) layout.afterColon _ layout.afterColonSpaces
        (layout.members_end_number level members rest)
      have later := ih false bound (Nat.lt_of_succ_lt_succ enough)
      rw [members_of_known known fresh, valueRead]
      exact later

theorem complete_of_seen (seen : List String) (unread : List Char)
    (required : ∀ field ∈ record.fields, field.required = true → field.name ∈ seen) :
    record.complete seen unread = .ok () := by
  have noneMissing : record.fields.find? (fun field => field.required && !seen.contains field.name) = none := by
    refine List.find?_eq_none.mpr fun field found missing => ?_
    obtain ⟨isRequired, unseen⟩ := Bool.and_eq_true_iff.mp missing
    simp [required field found isRequired] at unseen
  rw [complete, noneMissing]

theorem read_of_object {blanks : List Char} (spaces : Spaces blanks) (rest : List Char) :
    record.read (blanks ++ '{' :: rest) =
      (do
        let (value, seen, unread) ← record.members (rest.length + 1) true record.blank [] rest
        record.complete seen unread
        return (value, unread.drop 1) : Except Fault (α × List Char)).mapError leaveObject := by
  rw [read, skip_spaces (c := '{') spaces rfl]
  rfl

theorem Fills.reads_object {seen : List String} {value : α} {members : List (String × Json)}
    (fills : Fills record [] record.blank members seen value)
    (required : ∀ field ∈ record.fields, field.required = true → field.name ∈ seen) :
    Reads record.read (.object members) value := by
  intro layout level blanks rest spaces _
  rw [layout.object_append, read_of_object spaces,
    fills.read_members layout level true _ rest (layout.members_fit level members rest)]
  simp only [bind, Except.bind, complete_of_seen seen _ required]
  rfl

end Record

end

end PageFeedback.Json
