import PageFeedback.Proofs.Json.Record

set_option autoImplicit false

namespace PageFeedback.Json

mutual

def ordered : Json → Json
  | array items => array (orderedItems items)
  | object members => object (byName (orderedMembers members))
  | scalar => scalar

def orderedItems : List Json → List Json
  | [] => []
  | item :: rest => ordered item :: orderedItems rest

def orderedMembers : List (String × Json) → List (String × Json)
  | [] => []
  | (name, value) :: rest => (name, ordered value) :: orderedMembers rest

end

theorem ordered_items (items : List Json) : orderedItems items = items.map ordered := by
  induction items with
  | nil => rfl
  | cons item items ih => rw [orderedItems, ih, List.map_cons]

theorem ordered_array {α : Type} (write : α → Json) (items : List α) :
    (array (items.map write)).ordered = array (items.map fun item => (write item).ordered) := by
  rw [ordered, ordered_items, List.map_map]
  rfl

theorem ordered_members (members : List (String × Json)) :
    orderedMembers members = members.map fun member => (member.1, member.2.ordered) := by
  induction members with
  | nil => rfl
  | cons member members ih => rw [orderedMembers, ih, List.map_cons]

theorem member_of_ordered (name : String) (members : List (String × Json)) :
    (ordered (.object members)).member? name = (members.reverse.lookup name).map ordered := by
  rw [ordered, member?, ordered_members, byName, lookup_insert_each, List.append_nil, ← List.map_reverse,
    lookup_map_values]

-- Values that are read exactly: their numbers are whole, and they nest no deeper than the depth.
inductive Fits : Nat → Json → Prop
  | null (depth : Nat) : Fits depth .null
  | bool (depth : Nat) (value : Bool) : Fits depth (.bool value)
  | integer (depth : Nat) (n : Integer) : Fits depth (.number (.integer n))
  | string (depth : Nat) (text : String) : Fits depth (.string text)
  | array {depth : Nat} {items : List Json} (each : ∀ item ∈ items, Fits depth item) : Fits (depth + 1) (.array items)
  | object {depth : Nat} {members : List (String × Json)} (each : ∀ member ∈ members, Fits depth member.2) :
      Fits (depth + 1) (.object members)

theorem integer_start (n : Integer) :
    ∃ c more, (Number.integer n).chars = c :: more ∧ (c = '-' ∨ c.isDigit = true) := by
  rw [Number.chars]
  split_ifs
  · exact ⟨'-', _, rfl, .inl rfl⟩
  · have digits := digits_are_digits n.value.natAbs
    obtain ⟨first, more, split⟩ := List.exists_cons_of_ne_nil digits.present
    exact ⟨first, more, split, .inr (digits.digit first (split ▸ List.mem_cons_self))⟩

theorem Fits.starts {depth : Nat} {json : Json} (fits : Fits depth json) (layout : Layout) (level : Nat) :
    Starts (layout.print level json) := by
  cases fits with
  | null => exact ⟨'n', _, layout.null level, by decide, by decide⟩
  | bool depth value =>
      rw [layout.bool]
      cases value with
      | true => exact ⟨'t', _, rfl, by decide, by decide⟩
      | false => exact ⟨'f', _, rfl, by decide, by decide⟩
  | integer depth n =>
      obtain ⟨c, more, written, sign | digit⟩ := integer_start n
      · exact ⟨c, more, (layout.number level _).trans written, by rw [sign]; rfl, by rw [sign]; decide⟩
      · exact ⟨c, more, (layout.number level _).trans written, digit_visible digit, AreDigits.ne_of_digit digit rfl⟩
  | string depth text => exact ⟨'"', _, layout.string level text, by decide, by decide⟩
  | array => exact ⟨'[', _, layout.array level _, by decide, by decide⟩
  | object => exact ⟨'{', _, layout.object level _, by decide, by decide⟩

theorem reads_null_value (depth : Nat) : Reads (readValue depth) .null .null := by
  intro layout level blanks rest spaces _
  rw [layout.null, readValue.eq_def]
  simp only [List.cons_append, skip_spaces (c := 'n') spaces rfl]
  rfl

theorem reads_bool_value (depth : Nat) (value : Bool) : Reads (readValue depth) (.bool value) (.bool value) := by
  intro layout level blanks rest spaces _
  rw [layout.bool, readValue.eq_def]
  cases value with
  | true =>
      simp only [if_true, List.cons_append, skip_spaces (c := 't') spaces rfl]
      rfl
  | false =>
      simp only [Bool.false_eq_true, if_false, List.cons_append, skip_spaces (c := 'f') spaces rfl]
      rfl

theorem reads_integer_value (depth : Nat) (n : Integer) :
    Reads (readValue depth) (.number (.integer n)) (.number (.integer n)) := by
  intro layout level blanks rest spaces ends
  have number := Number.read_integer n rest ends
  obtain ⟨c, more, written, start⟩ := integer_start n
  have visible : isSpace c = false := start.elim (fun sign => by rw [sign]; rfl) digit_visible
  have noWord : c ≠ 'n' ∧ c ≠ 't' ∧ c ≠ 'f' := by
    cases start with
    | inl sign => rw [sign]; decide
    | inr digit =>
        exact ⟨AreDigits.ne_of_digit digit rfl, AreDigits.ne_of_digit digit rfl, AreDigits.ne_of_digit digit rfl⟩
  obtain ⟨notN, notT, notF⟩ := noWord
  rw [layout.number, readValue.eq_def]
  rw [written, List.cons_append] at number ⊢
  simp only [skip_spaces spaces visible, if_neg notN, if_neg notT, if_neg notF]
  simp [start, number, bind, Except.bind, pure, Except.pure]

theorem reads_string_value (depth : Nat) (text : String) : Reads (readValue depth) (.string text) (.string text) := by
  intro layout level blanks rest spaces _
  rw [layout.string, string_chars_append, readValue.eq_def]
  dsimp only
  rw [skip_spaces (c := '"') spaces rfl]
  simp [read_escaped_chars, bind, Except.bind, pure, Except.pure]

theorem value_of_array (depth : Nat) {blanks : List Char} (spaces : Spaces blanks) (rest : List Char) :
    readValue (depth + 1) (blanks ++ '[' :: rest) =
      (readItems (readValue depth) (rest.length + 1) true rest).map fun (items, unread) => (.array items, unread) := by
  rw [readValue.eq_def]
  dsimp only
  rw [skip_spaces (c := '[') spaces rfl]
  rfl

theorem reads_array_value (depth : Nat) (items : List Json) (value : Json → Json)
    (reads : ∀ item ∈ items, Reads (readValue depth) item (value item))
    (starts : ∀ item ∈ items, ∀ (layout : Layout) (level : Nat), Starts (layout.print level item)) :
    Reads (readValue (depth + 1)) (.array items) (.array (items.map value)) := by
  intro layout level blanks rest spaces _
  have read := read_items (readValue depth) value layout level items reads
    (fun item found => starts item found layout (level + 1)) true _ rest (layout.items_fit level items rest)
  rw [layout.array_append, value_of_array depth spaces, read]
  rfl

theorem value_of_opened (depth : Nat) {chars rest : List Char} (opened : skipSpace chars = '{' :: rest) :
    readValue (depth + 1) chars =
      (readMembers (readValue depth) (rest.length + 1) true rest).map fun (members, unread) =>
        (.object (byName members), unread) := by
  rw [readValue.eq_def]
  dsimp only
  rw [opened]
  rfl

theorem value_of_object (depth : Nat) {blanks : List Char} (spaces : Spaces blanks) (rest : List Char) :
    readValue (depth + 1) (blanks ++ '{' :: rest) =
      (readMembers (readValue depth) (rest.length + 1) true rest).map fun (members, unread) =>
        (.object (byName members), unread) :=
  value_of_opened depth (skip_spaces (c := '{') spaces rfl rest)

theorem reads_object_value (depth : Nat) (members : List (String × Json)) (value : Json → Json)
    (reads : ∀ member ∈ members, Reads (readValue depth) member.2 (value member.2)) :
    Reads (readValue (depth + 1)) (.object members)
      (.object (byName (members.map fun member => (member.1, value member.2)))) := by
  intro layout level blanks rest spaces _
  have read := read_members (readValue depth) id value layout level members reads true _ rest
    (layout.members_fit level members rest)
  rw [layout.object_append, value_of_object depth spaces]
  exact congrArg (Except.map _) ((congrArg _ (by simp)).trans read)

theorem Fits.reads {depth : Nat} {json : Json} (fits : Fits depth json) :
    Reads (readValue depth) json json.ordered := by
  induction fits with
  | null depth => exact reads_null_value depth
  | bool depth value => exact reads_bool_value depth value
  | integer depth n => exact reads_integer_value depth n
  | string depth text => exact reads_string_value depth text
  | @array depth items each ih =>
      rw [ordered, ordered_items]
      exact reads_array_value depth items ordered ih fun item found => (each item found).starts
  | @object depth members each ih =>
      rw [ordered, ordered_members]
      exact reads_object_value depth members ordered ih

theorem Fits.parse_pretty {json : Json} (fits : Fits depthLimit json) : parse json.prettyText = .ok json.ordered := by
  rw [parse, prettyText, String.toList_ofList]
  exact fits.reads.read_all .indented 0

theorem Fits.parse_compact {json : Json} (fits : Fits depthLimit json) : parse json.compactText = .ok json.ordered := by
  rw [parse, compactText, String.toList_ofList]
  exact fits.reads.read_all .tight 0

theorem parse_single_string (name text : String) :
    parse (compactText (.object [(name, .string text)])) = .ok (.object [(name, .string text)]) :=
  Fits.parse_compact (.object fun _ found => List.mem_singleton.mp found ▸ .string 126 text)

end PageFeedback.Json
