import PageFeedback.Proofs.Json.Layout
import PageFeedback.Proofs.Json.Text

set_option autoImplicit false

namespace PageFeedback.Json

-- A reader takes a value from its text in any layout, after any white space, and leaves what follows.
def Reads {α : Type} (reader : Reader α) (json : Json) (value : α) : Prop :=
  ∀ (layout : Layout) (level : Nat) (blanks rest : List Char), Spaces blanks → Number.EndsNumber rest →
    reader (blanks ++ (layout.print level json ++ rest)) = .ok (value, rest)

theorem Reads.at_start {α : Type} {reader : Reader α} {json : Json} {value : α} (reads : Reads reader json value)
    (layout : Layout) (level : Nat) (rest : List Char) (ends : Number.EndsNumber rest) :
    reader (layout.print level json ++ rest) = .ok (value, rest) := reads layout level [] rest no_spaces ends

theorem Reads.read_all {α : Type} {reader : Reader α} {json : Json} {value : α} (reads : Reads reader json value)
    (layout : Layout) (level : Nat) : readAll reader (layout.print level json) = .ok value := by
  have read := reads.at_start layout level [] (fun _ found => nomatch found)
  rw [List.append_nil] at read
  rw [readAll, read]
  rfl

namespace Layout

variable (layout : Layout)

def itemsFrom (level : Nat) (first : Bool) (items : List Json) : List Char :=
  entriesFrom (layout.gap (level + 1)) (layout.gap level) first (items.map (layout.print (level + 1)))

def membersFrom (level : Nat) (first : Bool) (members : List (String × Json)) : List Char :=
  entriesFrom (layout.gap (level + 1)) (layout.gap level) first
    (members.map fun member => memberChars layout.afterColon member.1 (layout.print (level + 1) member.2))

theorem array_append (level : Nat) (items : List Json) (rest : List Char) :
    layout.print level (.array items) ++ rest = '[' :: (layout.itemsFrom level true items ++ ']' :: rest) := by
  rw [layout.array, List.cons_append, List.append_assoc]
  rfl

theorem object_append (level : Nat) (members : List (String × Json)) (rest : List Char) :
    layout.print level (.object members) ++ rest = '{' :: (layout.membersFrom level true members ++ '}' :: rest) := by
  rw [layout.object, List.cons_append, List.append_assoc]
  rfl

theorem items_fit (level : Nat) (items : List Json) (rest : List Char) :
    items.length < (layout.itemsFrom level true items ++ ']' :: rest).length + 1 := by
  have fit := entries_fit (layout.gap (level + 1)) (layout.gap level) (items.map (layout.print (level + 1))) ']' rest
  rw [List.length_map] at fit
  exact fit

theorem members_fit (level : Nat) (members : List (String × Json)) (rest : List Char) :
    members.length < (layout.membersFrom level true members ++ '}' :: rest).length + 1 := by
  have fit := entries_fit (layout.gap (level + 1)) (layout.gap level)
    (members.map fun member => memberChars layout.afterColon member.1 (layout.print (level + 1) member.2)) '}' rest
  rw [List.length_map] at fit
  exact fit

theorem items_end_number (level : Nat) (items : List Json) (rest : List Char) :
    Number.EndsNumber (layout.itemsFrom level false items ++ ']' :: rest) :=
  entries_end_number (layout.gapSpaces level) _ (fun c found => by cases found; decide) rest

theorem members_end_number (level : Nat) (members : List (String × Json)) (rest : List Char) :
    Number.EndsNumber (layout.membersFrom level false members ++ '}' :: rest) :=
  entries_end_number (layout.gapSpaces level) _ (fun c found => by cases found; decide) rest

end Layout

def Starts (chars : List Char) : Prop := ∃ c rest, chars = c :: rest ∧ isSpace c = false ∧ c ≠ ']'

theorem next_item_of_entry (first : Bool) {gap entry : List Char} (spaces : Spaces gap) (starts : Starts entry)
    (rest : List Char) :
    nextItem first ((if first then [] else [',']) ++ (gap ++ (entry ++ rest))) = .ok (some (entry ++ rest)) := by
  obtain ⟨c, more, rfl, visible, goesOn⟩ := starts
  have start : skipSpace (gap ++ c :: (more ++ rest)) = c :: (more ++ rest) := skip_spaces spaces visible _
  rw [List.cons_append]
  cases first with
  | true =>
      rw [if_pos rfl, List.nil_append, nextItem, start]
      simp
  | false =>
      have comma (chars : List Char) : skipSpace (',' :: chars) = ',' :: chars := rfl
      rw [if_neg Bool.false_ne_true, List.singleton_append, nextItem, comma]
      simp [start, goesOn]

theorem next_name_of_member (first : Bool) {gap : List Char} (spaces : Spaces gap) (afterColon : List Char)
    (name : String) (value rest : List Char) :
    nextName first ((if first then [] else [',']) ++ (gap ++ (memberChars afterColon name value ++ rest))) =
      .ok (some (name.toList.flatMap escapedChar ++ '"' :: ':' :: (afterColon ++ (value ++ rest)))) := by
  have written : memberChars afterColon name value ++ rest =
      '"' :: (name.toList.flatMap escapedChar ++ '"' :: ':' :: (afterColon ++ (value ++ rest))) := by
    rw [memberChars, List.append_assoc, string_chars_append, List.cons_append, List.append_assoc]
  have start := skip_spaces (c := '"') spaces rfl
    (name.toList.flatMap escapedChar ++ '"' :: ':' :: (afterColon ++ (value ++ rest)))
  rw [written]
  cases first with
  | true => rw [if_pos rfl, List.nil_append, nextName, start]; rfl
  | false =>
      have comma (chars : List Char) : skipSpace (',' :: chars) = ',' :: chars := rfl
      rw [if_neg Bool.false_ne_true, List.singleton_append, nextName, comma]
      simp [start]

theorem read_colon (rest : List Char) : readColon (':' :: rest) = .ok rest := rfl

theorem skip_space_at_end {close : List Char} (spaces : Spaces close) {c : Char} (visible : isSpace c = false)
    (first : Bool) (gap rest : List Char) : skipSpace (entriesFrom gap close first [] ++ c :: rest) = c :: rest := by
  cases first with
  | true => exact skip_spaces no_spaces visible rest
  | false => exact skip_spaces spaces visible rest

section

variable {α β : Type}

theorem items_from_cons (layout : Layout) (level : Nat) (first : Bool) (item : Json) (items : List Json)
    (rest : List Char) :
    layout.itemsFrom level first (item :: items) ++ rest =
      (if first then [] else [',']) ++ (layout.gap (level + 1) ++
        (layout.print (level + 1) item ++ (layout.itemsFrom level false items ++ rest))) := by
  simp [Layout.itemsFrom, entriesFrom]

theorem read_items (reader : Reader α) (value : Json → α) (layout : Layout) (level : Nat) (items : List Json)
    (reads : ∀ item ∈ items, Reads reader item (value item))
    (starts : ∀ item ∈ items, Starts (layout.print (level + 1) item)) (first : Bool) (bound : Nat)
    (rest : List Char) (enough : items.length < bound) :
    readItems reader bound first (layout.itemsFrom level first items ++ ']' :: rest) =
      .ok (items.map value, rest) := by
  induction items generalizing first bound with
  | nil =>
      obtain ⟨bound, rfl⟩ := Nat.exists_eq_succ_of_ne_zero (Nat.ne_zero_of_lt enough)
      have stop := skip_space_at_end (c := ']') (layout.gapSpaces level) rfl first (layout.gap (level + 1)) rest
      simp [readItems, nextItem, Layout.itemsFrom, stop]
  | cons item items ih =>
      obtain ⟨bound, rfl⟩ := Nat.exists_eq_succ_of_ne_zero (Nat.ne_zero_of_lt enough)
      have itemRead := (reads item List.mem_cons_self).at_start layout (level + 1) _
        (layout.items_end_number level items rest)
      have later := ih (fun item found => reads item (List.mem_cons_of_mem _ found))
        (fun item found => starts item (List.mem_cons_of_mem _ found)) false bound (Nat.lt_of_succ_lt_succ enough)
      rw [items_from_cons, readItems,
        next_item_of_entry first (layout.gapSpaces (level + 1)) (starts item List.mem_cons_self)]
      simp only [itemRead, later, List.map_cons]

theorem members_from_cons (layout : Layout) (level : Nat) (first : Bool) (name : String) (json : Json)
    (members : List (String × Json)) (rest : List Char) :
    layout.membersFrom level first ((name, json) :: members) ++ rest =
      (if first then [] else [',']) ++ (layout.gap (level + 1) ++
        (memberChars layout.afterColon name (layout.print (level + 1) json) ++
          (layout.membersFrom level false members ++ rest))) := by
  simp [Layout.membersFrom, entriesFrom]

theorem read_members (reader : Reader α) (write : β → Json) (value : β → α) (layout : Layout) (level : Nat)
    (members : List (String × β)) (reads : ∀ member ∈ members, Reads reader (write member.2) (value member.2))
    (first : Bool) (bound : Nat) (rest : List Char) (enough : members.length < bound) :
    readMembers reader bound first
        (layout.membersFrom level first (members.map fun member => (member.1, write member.2)) ++ '}' :: rest) =
      .ok (members.map fun member => (member.1, value member.2), rest) := by
  induction members generalizing first bound with
  | nil =>
      obtain ⟨bound, rfl⟩ := Nat.exists_eq_succ_of_ne_zero (Nat.ne_zero_of_lt enough)
      have stop := skip_space_at_end (c := '}') (layout.gapSpaces level) rfl first (layout.gap (level + 1)) rest
      simp [readMembers, nextName, Layout.membersFrom, stop]
  | cons member members ih =>
      obtain ⟨name, item⟩ := member
      obtain ⟨bound, rfl⟩ := Nat.exists_eq_succ_of_ne_zero (Nat.ne_zero_of_lt enough)
      have valueRead := reads (name, item) List.mem_cons_self layout (level + 1) layout.afterColon _
        layout.afterColonSpaces
        (layout.members_end_number level (members.map fun member => (member.1, write member.2)) rest)
      have later := ih (fun member found => reads member (List.mem_cons_of_mem _ found)) false bound
        (Nat.lt_of_succ_lt_succ enough)
      rw [List.map_cons, members_from_cons, readMembers, next_name_of_member first (layout.gapSpaces (level + 1))]
      simp only [read_escaped_chars, read_colon, valueRead, later, String.ofList_toList, List.map_cons]

end

end PageFeedback.Json
