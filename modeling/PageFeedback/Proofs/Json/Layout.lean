import PageFeedback.Json.Printer
import PageFeedback.Json.Reader
import PageFeedback.Proofs.Json.Number

set_option autoImplicit false

namespace PageFeedback.Json

def Spaces (chars : List Char) : Prop := ∀ c ∈ chars, isSpace c = true

theorem no_spaces : Spaces [] := fun _ found => nomatch found

theorem new_line_spaces (level : Nat) : Spaces (newLine level) := by
  intro c found
  cases List.mem_cons.mp found with
  | inl feed => exact feed ▸ rfl
  | inr indent => exact (List.mem_replicate.mp indent).2 ▸ rfl

theorem skip_spaces {blanks : List Char} (spaces : Spaces blanks) {c : Char} (visible : isSpace c = false)
    (rest : List Char) : skipSpace (blanks ++ c :: rest) = c :: rest := by
  rw [skipSpace, List.dropWhile_append_of_pos spaces, List.dropWhile_cons_of_neg (by simp [visible])]

-- The entries of a list or an object, those that follow another one after a comma. What comes
-- before each is `gap`, and what comes before the closing bracket, if there are any, is `close`.
def entriesFrom (gap close : List Char) (first : Bool) : List (List Char) → List Char
  | [] => if first then [] else close
  | entry :: rest => (if first then [] else [',']) ++ (gap ++ (entry ++ entriesFrom gap close false rest))

def memberChars (afterColon : List Char) (name : String) (value : List Char) : List Char :=
  stringChars name.toList ++ ':' :: (afterColon ++ value)

structure Layout where
  print : Nat → Json → List Char
  gap : Nat → List Char
  afterColon : List Char
  gapSpaces : ∀ level, Spaces (gap level)
  afterColonSpaces : Spaces afterColon
  null : ∀ level, print level .null = ['n', 'u', 'l', 'l']
  bool : ∀ level value, print level (.bool value) = if value then ['t', 'r', 'u', 'e'] else ['f', 'a', 'l', 's', 'e']
  number : ∀ level value, print level (.number value) = value.chars
  string : ∀ level text, print level (.string text) = stringChars text.toList
  array : ∀ level items, print level (.array items) =
    '[' :: (entriesFrom (gap (level + 1)) (gap level) true (items.map (print (level + 1))) ++ [']'])
  object : ∀ level members, print level (.object members) =
    '{' :: (entriesFrom (gap (level + 1)) (gap level) true
      (members.map fun member => memberChars afterColon member.1 (print (level + 1) member.2)) ++ ['}'])

theorem compact_items (items : List Json) : compactItems items = entriesFrom [] [] true (items.map compact) := by
  induction items with
  | nil => rfl
  | cons item items ih =>
      cases items with
      | nil => simp [compactItems, entriesFrom]
      | cons next rest =>
          rw [compactItems, ih]
          · rfl
          · exact List.cons_ne_nil _ _

theorem compact_members (members : List (String × Json)) :
    compactMembers members =
      entriesFrom [] [] true (members.map fun member => memberChars [] member.1 member.2.compact) := by
  induction members with
  | nil => rfl
  | cons member members ih =>
      obtain ⟨name, value⟩ := member
      cases members with
      | nil => simp [compactMembers, entriesFrom, memberChars]
      | cons next rest =>
          rw [compactMembers, ih]
          · simp [entriesFrom, memberChars]
          · exact List.cons_ne_nil _ _

def Layout.tight : Layout where
  print _ := compact
  gap _ := []
  afterColon := []
  gapSpaces _ := no_spaces
  afterColonSpaces := no_spaces
  null _ := rfl
  bool _ value := by cases value <;> rfl
  number _ _ := rfl
  string _ _ := rfl
  array _ items := congrArg (fun entries => '[' :: (entries ++ [']'])) (compact_items items)
  object _ members := congrArg (fun entries => '{' :: (entries ++ ['}'])) (compact_members members)

theorem pretty_items (level : Nat) (items : List Json) :
    prettyItems level items =
      entriesFrom (newLine (level + 1)) (newLine level) false (items.map (pretty (level + 1))) ++ [']'] := by
  induction items with
  | nil => rfl
  | cons item items ih =>
      rw [prettyItems, ih]
      simp [entriesFrom]

theorem pretty_members (level : Nat) (members : List (String × Json)) :
    prettyMembers level members =
      entriesFrom (newLine (level + 1)) (newLine level) false
        (members.map fun member => memberChars [' '] member.1 (pretty (level + 1) member.2)) ++ ['}'] := by
  induction members with
  | nil => rfl
  | cons member members ih =>
      obtain ⟨name, value⟩ := member
      rw [prettyMembers, ih]
      simp [entriesFrom, memberChars]

def Layout.indented : Layout where
  print := pretty
  gap := newLine
  afterColon := [' ']
  gapSpaces := new_line_spaces
  afterColonSpaces := List.forall_mem_singleton.mpr rfl
  null _ := rfl
  bool _ value := by cases value <;> rfl
  number _ _ := rfl
  string _ _ := rfl
  array level items := by
    cases items with
    | nil => rfl
    | cons item items =>
        rw [pretty, pretty_items]
        simp [entriesFrom]
  object level members := by
    cases members with
    | nil => rfl
    | cons member members =>
        rw [pretty, pretty_members]
        simp [entriesFrom, memberChars]

theorem entries_length (gap close : List Char) (first : Bool) (entries : List (List Char)) :
    entries.length ≤ (entriesFrom gap close first entries).length + first.toNat := by
  induction entries generalizing first with
  | nil => exact Nat.zero_le _
  | cons entry entries ih =>
      have later := ih false
      rw [Bool.toNat_false] at later
      simp only [entriesFrom, List.length_append, List.length_cons]
      cases first <;> simp <;> omega

-- The readers bound the number of entries by the length of the text.
theorem entries_fit (gap close : List Char) (entries : List (List Char)) (bracket : Char) (rest : List Char) :
    entries.length < (entriesFrom gap close true entries ++ bracket :: rest).length + 1 := by
  have count := entries_length gap close true entries
  rw [List.length_append, List.length_cons]
  simp only [Bool.toNat_true] at count
  omega

theorem space_ends_number : ∀ c, isSpace c = true → c.isDigit = false ∧ c ≠ '.' ∧ c ≠ 'e' ∧ c ≠ 'E' := by
  intro c space
  simp only [isSpace, Bool.or_eq_true, decide_eq_true_eq] at space
  obtain ((rfl | rfl) | rfl) | rfl := space <;> decide

theorem entries_end_number {gap close : List Char} (spaces : Spaces close) (entries : List (List Char))
    {bracket : Char} (ends : Number.EndsNumber [bracket]) (rest : List Char) :
    Number.EndsNumber (entriesFrom gap close false entries ++ bracket :: rest) := by
  intro c found
  cases entries with
  | nil =>
      cases close with
      | nil => exact ends c found
      | cons blank close =>
          cases found
          exact space_ends_number c (spaces c List.mem_cons_self)
  | cons entry entries =>
      cases found
      decide

end PageFeedback.Json
