import PageFeedback.Proofs.Toml.Scalar

set_option autoImplicit false

namespace PageFeedback.Toml

structure IsBare (name : String) : Prop where
  present : name.toList ≠ []
  bare : ∀ c ∈ name.toList, isBareChar c = true

instance (name : String) : Decidable (IsBare name) :=
  decidable_of_iff (name.toList.isEmpty = false ∧ name.toList.all isBareChar = true)
    ⟨fun ⟨present, bare⟩ => ⟨List.isEmpty_eq_false_iff.mp present, List.all_eq_true.mp bare⟩,
      fun ⟨present, bare⟩ => ⟨List.isEmpty_eq_false_iff.mpr present, List.all_eq_true.mpr bare⟩⟩

theorem bare_char_ne (c d : Char) (bare : isBareChar c = true) (other : isBareChar d = false) : c ≠ d := by
  intro same
  rw [same, other] at bare
  cases bare

theorem skip_space_of_head (c : Char) (rest : List Char) (solid : isSpace c = false) :
    skipSpace (c :: rest) = c :: rest := by
  rw [skipSpace, List.dropWhile_cons_of_neg (by rw [solid]; exact Bool.false_ne_true)]

namespace IsBare

variable {name : String}

theorem head (bare : IsBare name) (rest : List Char) :
    ∃ c more, name.toList ++ rest = c :: more ∧ isBareChar c = true := by
  have bares := bare.bare
  cases chars : name.toList with
  | nil => exact absurd chars bare.present
  | cons c more => exact ⟨c, more ++ rest, rfl, bares c (chars ▸ List.mem_cons_self)⟩

theorem read_name (bare : IsBare name) (stop : Char) (rest : List Char) (stops : isBareChar stop = false) :
    readName (name.toList ++ stop :: rest) = some (name.toList, stop :: rest) := by
  obtain ⟨c, more, same, first⟩ := bare.head (stop :: rest)
  have noBar : ¬ isBareChar stop = true := by rw [stops]; exact Bool.false_ne_true
  have whole : (name.toList ++ stop :: rest).takeWhile isBareChar = name.toList := by
    rw [List.takeWhile_append_of_pos bare.bare, List.takeWhile_cons_of_neg noBar, List.append_nil]
  have after : (name.toList ++ stop :: rest).dropWhile isBareChar = stop :: rest := by
    rw [List.dropWhile_append_of_pos bare.bare, List.dropWhile_cons_of_neg noBar]
  have present : name.toList.isEmpty = false := by simpa using bare.present
  unfold readName
  split
  next quoted => exact absurd (List.cons.inj (same.symm.trans quoted)).1 (bare_char_ne c '"' first rfl)
  next quoted => exact absurd (List.cons.inj (same.symm.trans quoted)).1 (bare_char_ne c '\x27' first rfl)
  · simp only [whole, after, present]
    rfl

-- Spaces after the name are left out; what comes then is no dot, so the name is the whole key.
theorem read_key (bare : IsBare name) (stop : Char) (rest : List Char) (stops : isBareChar stop = false)
    (unread : List Char) (spaced : skipSpace (stop :: rest) = unread) (undotted : unread.head? ≠ some '.') :
    readKey keyLimit (name.toList ++ stop :: rest) = some (⟨[], name⟩, unread) := by
  rw [keyLimit, readKey, bare.read_name stop rest stops]
  simp only [Option.bind_eq_bind, Option.bind_some, spaced, String.ofList_toList]
  split
  · exact absurd rfl undotted
  · rfl

theorem skip_space (bare : IsBare name) (rest : List Char) :
    skipSpace (name.toList ++ rest) = name.toList ++ rest := by
  obtain ⟨c, more, same, first⟩ := bare.head rest
  rw [same]
  refine skip_space_of_head c more ?_
  have noSpace := bare_char_ne c ' ' first rfl
  have noTab := bare_char_ne c '\t' first rfl
  simp [isSpace, noSpace, noTab]

end IsBare

theorem read_header {name : String} (bare : IsBare name) (unread : List Char) :
    readStatement ('[' :: (name.toList ++ ']' :: unread)) = some (some (.header ⟨[], name⟩), unread) := by
  have key := bare.read_key ']' unread rfl (']' :: unread) rfl (by simp)
  obtain ⟨c, more, same, first⟩ := bare.head (']' :: unread)
  have noBracket := bare_char_ne c '[' first rfl
  have spaced := bare.skip_space (']' :: unread)
  rw [readStatement, skip_space_of_head '[' _ rfl]
  rw [same] at key spaced ⊢
  split
  next none => cases none
  next double =>
    exact absurd (List.cons.inj (List.cons.inj double).2).1 noBracket
  next single =>
    cases single
    rw [spaced, key]
    rfl
  next noSingle same => exact (noSingle (List.cons.inj same).1.symm).elim

theorem scalar_chars_start (scalar : Scalar) (rest : List Char) :
    skipSpace (scalar.chars ++ rest) = scalar.chars ++ rest := by
  have ofWord {word : List Char} (isWord : IsWord word) : skipSpace (word ++ rest) = word ++ rest := by
    cases word with
    | nil => exact absurd rfl isWord.present
    | cons c word =>
        refine skip_space_of_head c (word ++ rest) ?_
        have wordChar := (isWord.unquoted c List.mem_cons_self).1
        simp only [isWordChar, List.contains_eq_mem, Bool.not_eq_true', decide_eq_false_iff_not] at wordChar
        simp only [List.mem_cons, not_or] at wordChar
        simp [isSpace, wordChar]
  cases scalar with
  | string text =>
      change skipSpace (stringChars text.toList ++ rest) = stringChars text.toList ++ rest
      obtain ⟨quote, more, same, solid⟩ : ∃ quote more, stringChars text.toList = quote :: more ∧ isSpace quote = false := by
        unfold stringChars
        split <;> exact ⟨_, _, rfl, rfl⟩
      rw [same]
      exact skip_space_of_head quote (more ++ rest) solid
  | integer value => exact ofWord (integer_word value).1
  | float value => exact ofWord (float_word value).1
  | boolean value =>
      cases value with
      | true => exact skip_space_of_head 't' _ rfl
      | false => exact skip_space_of_head 'f' _ rfl

theorem read_member_line {name : String} (bare : IsBare name) (scalar : Scalar) (unread : List Char) :
    readStatement (name.toList ++ ' ' :: '=' :: ' ' :: (scalar.chars ++ '\n' :: unread)) =
      some (some (.assign ⟨[], name⟩ scalar.toToml), '\n' :: unread) := by
  let written := scalar.chars ++ '\n' :: unread
  have key := bare.read_key ' ' ('=' :: ' ' :: written) rfl ('=' :: ' ' :: written) rfl (by simp)
  have value : skipSpace (' ' :: written) = written := scalar_chars_start scalar _
  have assignment : readAssignment (some ∘ skipSpace) (readValue depthLimit)
      (name.toList ++ ' ' :: '=' :: ' ' :: written) = some ((⟨[], name⟩, scalar.toToml), '\n' :: unread) := by
    have read := read_scalar_chars depthLimit scalar unread
    change readValue depthLimit written = _ at read
    rw [readAssignment, key]
    simp only [Option.bind_eq_bind, Option.bind_some, Function.comp_apply]
    rw [skip_space_of_head '=' _ rfl]
    simp only [value, read, Option.bind_some, Option.pure_def]
  obtain ⟨c, more, same, first⟩ := bare.head (' ' :: '=' :: ' ' :: written)
  change readStatement (name.toList ++ ' ' :: '=' :: ' ' :: written) = _
  have noBracket := bare_char_ne c '[' first rfl
  have noComment := bare_char_ne c '#' first rfl
  -- Started by a name, the line is no header, no comment and not blank.
  have noBreak : isLineBreak c more = false := by
    simp [isLineBreak, bare_char_ne c '\n' first rfl, bare_char_ne c '\r' first rfl]
  rw [readStatement, bare.skip_space]
  rw [same] at assignment ⊢
  split
  next none => cases none
  next double => exact absurd (List.cons.inj double).1 noBracket
  next single => exact absurd (List.cons.inj single).1 noBracket
  next c' rest _ _ plain =>
    cases plain
    rw [if_neg (by simp [noComment, noBreak]), assignment]
    rfl

theorem read_blank_line (unread : List Char) : readStatement ('\n' :: unread) = some (none, '\n' :: unread) := rfl

structure Line where
  chars : List Char
  statement : Option Statement

def Line.IsRead (line : Line) : Prop :=
  ∀ unread, readStatement (line.chars ++ '\n' :: unread) = some (line.statement, '\n' :: unread)

def linesChars (lines : List Line) : List Char := lines.flatMap fun line => line.chars ++ ['\n']

theorem lines_chars_cons (line : Line) (lines : List Line) :
    linesChars (line :: lines) = line.chars ++ '\n' :: linesChars lines := by
  rw [linesChars, List.flatMap_cons, List.append_assoc]
  rfl

theorem lines_chars_append (first second : List Line) :
    linesChars (first ++ second) = linesChars first ++ linesChars second := List.flatMap_append

-- A line is read without a look at the lines after it, so the induction is on the lines.
theorem read_lines (lines : List Line) (bound : Nat) (areRead : ∀ line ∈ lines, line.IsRead)
    (enough : lines.length ≤ bound) :
    readStatements bound (linesChars lines) = some (lines.filterMap (·.statement)) := by
  induction lines generalizing bound with
  | nil => cases bound <;> rfl
  | cons line lines ih =>
      obtain _ | bound := bound
      · exact absurd enough (Nat.not_succ_le_zero _)
      · have first := areRead line List.mem_cons_self (linesChars lines)
        have rest := ih bound (fun later found => areRead later (List.mem_cons_of_mem _ found))
          (Nat.le_of_succ_le_succ enough)
        have present : (line.chars ++ '\n' :: linesChars lines).isEmpty = false := by simp
        rw [lines_chars_cons, readStatements, present, first]
        simp only [Bool.false_eq_true, if_false, Option.bind_eq_bind, Option.bind_some]
        rw [show endLine? ('\n' :: linesChars lines) = some (linesChars lines) from rfl]
        simp only [Option.bind_some, rest, Option.pure_def, List.filterMap_cons]
        cases line.statement <;> rfl

namespace Section

def lines (part : Section) : List Line :=
  ⟨'[' :: (part.name.toList ++ [']']), some (.header ⟨[], part.name⟩)⟩ ::
    part.members.map fun member =>
      ⟨member.1.toList ++ ' ' :: '=' :: ' ' :: member.2.chars, some (.assign ⟨[], member.1⟩ member.2.toToml)⟩

def names (part : Section) : List String := part.members.map Prod.fst

structure HasBareNames (part : Section) : Prop where
  name : IsBare part.name
  members : ∀ name ∈ part.names, IsBare name

theorem lines_are_read (part : Section) (bare : part.HasBareNames) : ∀ line ∈ part.lines, line.IsRead := by
  intro line found unread
  cases List.mem_cons.mp found with
  | inl header =>
      rw [header, List.cons_append, List.append_assoc]
      exact read_header bare.name _
  | inr later =>
      obtain ⟨member, present, rfl⟩ := List.mem_map.mp later
      have read := read_member_line (bare.members member.1 (List.mem_map_of_mem present)) member.2 unread
      simpa only [List.append_assoc, List.cons_append] using read

theorem lines_chars (part : Section) : linesChars part.lines = part.chars := by
  have members (members : List (String × Scalar)) :
      linesChars (members.map fun member =>
        ⟨member.1.toList ++ ' ' :: '=' :: ' ' :: member.2.chars, some (.assign ⟨[], member.1⟩ member.2.toToml)⟩) =
        members.flatMap lineChars := by
    induction members with
    | nil => rfl
    | cons member members ih =>
        rw [List.map_cons, lines_chars_cons, ih, List.flatMap_cons, lineChars]
        simp
  rw [lines, lines_chars_cons, members, Section.chars]
  simp

end Section

def documentLines : List Section → List Line
  | [] => []
  | [last] => last.lines
  | part :: rest => part.lines ++ ⟨[], none⟩ :: documentLines rest

theorem document_lines_chars (sections : List Section) :
    linesChars (documentLines sections) = sectionsChars sections := by
  fun_induction documentLines sections with
  | case1 => rfl
  | case2 last => exact last.lines_chars
  | case3 part rest more ih =>
      rw [lines_chars_append, lines_chars_cons, part.lines_chars, ih]
      cases rest with
      | nil => exact absurd rfl more
      | cons next rest => rfl

theorem document_lines_are_read (sections : List Section) (bare : ∀ part ∈ sections, part.HasBareNames) :
    ∀ line ∈ documentLines sections, line.IsRead := by
  fun_induction documentLines sections with
  | case1 => exact fun _ found => nomatch found
  | case2 last => exact last.lines_are_read (bare last List.mem_cons_self)
  | case3 part rest more ih =>
      intro line found
      cases List.mem_append.mp found with
      | inl inPart => exact part.lines_are_read (bare part List.mem_cons_self) line inPart
      | inr later =>
          cases List.mem_cons.mp later with
          | inl blank =>
              rw [blank]
              exact read_blank_line
          | inr inRest => exact ih (fun part found => bare part (List.mem_cons_of_mem _ found)) line inRest

theorem lines_length_le (lines : List Line) : lines.length ≤ (linesChars lines).length := by
  induction lines with
  | nil => exact Nat.le_refl _
  | cons line lines ih =>
      rw [lines_chars_cons, List.length_append, List.length_cons, List.length_cons]
      omega

def sectionStatements (sections : List Section) : List Statement :=
  sections.flatMap fun part => part.lines.filterMap (·.statement)

theorem document_statements (sections : List Section) :
    (documentLines sections).filterMap (·.statement) = sectionStatements sections := by
  fun_induction documentLines sections with
  | case1 => rfl
  | case2 last => exact (List.append_nil _).symm
  | case3 part rest more ih =>
      rw [List.filterMap_append, List.filterMap_cons, ih]
      rfl

theorem read_sections (sections : List Section) (bare : ∀ part ∈ sections, part.HasBareNames) :
    parse (String.ofList (sectionsChars sections)) = ofStatements (sectionStatements sections) := by
  -- The first character is a bracket, which is no byte order mark.
  have marked : withoutMark (sectionsChars sections) = sectionsChars sections := by
    match sections with
    | [] => rfl
    | [last] => rfl
    | part :: next :: rest => rfl
  have read := read_lines (documentLines sections) ((sectionsChars sections).length + 1)
    (document_lines_are_read sections bare) (by
      rw [← document_lines_chars]
      exact Nat.le_succ_of_le (lines_length_le _))
  rw [document_lines_chars, document_statements] at read
  rw [parse, String.toList_ofList, marked, read, Option.bind_some]

end PageFeedback.Toml
