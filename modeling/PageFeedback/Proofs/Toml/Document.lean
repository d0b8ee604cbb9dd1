import PageFeedback.Proofs.Members
import PageFeedback.Proofs.Toml.Lines

set_option autoImplicit false

namespace PageFeedback

def sortMembers {β : Type} (members : List (String × β)) : List (String × β) :=
  members.foldr (fun member sorted => insertMember member.1 member.2 sorted) []

theorem sort_members_perm {β : Type} (members : List (String × β)) (distinct : (members.map Prod.fst).Nodup) :
    (sortMembers members).Perm members := by
  induction members with
  | nil => exact List.Perm.refl _
  | cons member members ih =>
      obtain ⟨fresh, later⟩ := List.nodup_cons.mp distinct
      have sorted := ih later
      have stillFresh : member.1 ∉ (sortMembers members).map Prod.fst :=
        fun found => fresh ((sorted.map Prod.fst).mem_iff.mp found)
      exact (insert_member_perm member.1 member.2 _ stillFresh).trans (sorted.cons member)

namespace Toml

theorem alter_append (name : String) (change : Option Node → Option Node) (before rest : Entries)
    (missing : name ∉ before.map Prod.fst) :
    alter name change (before ++ rest) = (alter name change rest).map (before ++ ·) := by
  induction before with
  | nil => exact Option.map_id'.symm
  | cons entry before ih =>
      obtain ⟨other, node⟩ := entry
      obtain ⟨different, later⟩ := not_or.mp (fun found => missing (List.mem_cons.mpr found))
      rw [List.cons_append, alter, if_neg (Ne.symm different), ih later, Option.map_map]
      rfl

theorem alter_missing (name : String) (change : Option Node → Option Node) (entries : Entries) (node : Node)
    (missing : name ∉ entries.map Prod.fst) (made : change none = some node) :
    alter name change entries = some (entries ++ [(name, node)]) := by
  have last := alter_append name change entries [] missing
  rw [List.append_nil, alter, made] at last
  exact last

theorem alter_last (name : String) (change : Option Node → Option Node) (before : Entries) (node changed : Node)
    (missing : name ∉ before.map Prod.fst) (made : change (some node) = some changed) :
    alter name change (before ++ [(name, node)]) = some (before ++ [(name, changed)]) := by
  rw [alter_append name change before _ missing, alter, if_pos rfl, made]
  rfl

theorem apply_header (entries : Entries) (current : List String) (name : String)
    (missing : name ∉ entries.map Prod.fst) :
    Construction.apply ⟨entries, current⟩ (.header ⟨[], name⟩) =
      some ⟨entries ++ [(name, .table .header [])], [name]⟩ := by
  rw [Construction.apply, inHeader, openTable, alter_missing name _ entries _ missing rfl]
  rfl

theorem apply_assign (before inner : Entries) (table name : String) (value : Toml)
    (missingTable : table ∉ before.map Prod.fst) (missing : name ∉ inner.map Prod.fst) :
    Construction.apply ⟨before ++ [(table, .table .header inner)], [table]⟩ (.assign ⟨[], name⟩ value) =
      some ⟨before ++ [(table, .table .header (inner ++ [(name, .value value)]))], [table]⟩ := by
  have assigned : assignIn name value [] inner = some (inner ++ [(name, .value value)]) := by
    rw [assignIn]
    exact alter_missing name _ inner _ missing rfl
  have changed : inHeader (assignIn name value []) [] inner = some (inner ++ [(name, .value value)]) := by
    rw [inHeader, assigned]
  rw [Construction.apply, inHeader, alter_last table _ before _ _ missingTable
    (congrArg (Option.map (Node.table .header)) changed)]
  rfl

namespace Section

def entries (part : Section) : Entries := part.members.map fun member => (member.1, .value member.2.toToml)

def HasDistinctMembers (part : Section) : Prop := part.names.Nodup

-- The header stood last, so each member goes behind those that its table has already.
theorem build_members (before inner : Entries) (table : String) (members : List (String × Scalar))
    (missing : table ∉ before.map Prod.fst) (distinct : (inner.map Prod.fst ++ members.map Prod.fst).Nodup) :
    (members.map fun member => Statement.assign ⟨[], member.1⟩ member.2.toToml).foldlM Construction.apply
        ⟨before ++ [(table, .table .header inner)], [table]⟩ =
      some ⟨before ++ [(table, .table .header (inner ++ members.map fun member => (member.1, .value member.2.toToml)))],
        [table]⟩ := by
  induction members generalizing inner with
  | nil =>
      simp only [List.map_nil, List.append_nil]
      rfl
  | cons member members ih =>
      have fresh : member.1 ∉ inner.map Prod.fst := by
        intro found
        exact (List.nodup_append.mp distinct).2.2 _ found _ List.mem_cons_self rfl
      have later := ih (inner ++ [(member.1, .value member.2.toToml)]) (by simpa using distinct)
      rw [List.append_assoc] at later
      rw [List.map_cons, List.foldlM_cons, apply_assign before inner table _ _ missing fresh]
      exact later

theorem build (before : Entries) (current : List String) (part : Section) (missing : part.name ∉ before.map Prod.fst)
    (distinct : part.HasDistinctMembers) :
    (part.lines.filterMap (·.statement)).foldlM Construction.apply ⟨before, current⟩ =
      some ⟨before ++ [(part.name, .table .header part.entries)], [part.name]⟩ := by
  have statements : part.lines.filterMap (·.statement) =
      .header ⟨[], part.name⟩ ::
        part.members.map fun member => Statement.assign ⟨[], member.1⟩ member.2.toToml := by
    rw [lines, List.filterMap_cons, List.filterMap_map, ← List.filterMap_eq_map]
    rfl
  rw [statements, List.foldlM_cons, apply_header before current part.name missing]
  exact build_members before [] part.name part.members missing (by
    rw [List.map_nil, List.nil_append]
    exact distinct)

end Section

-- No section has the name of an earlier one, so each opens a table of its own.
theorem build_sections (before : Entries) (current : List String) (sections : List Section)
    (distinct : (before.map Prod.fst ++ sections.map (·.name)).Nodup)
    (members : ∀ part ∈ sections, part.HasDistinctMembers) :
    ∃ last, (sectionStatements sections).foldlM Construction.apply ⟨before, current⟩ =
      some ⟨before ++ sections.map fun part => (part.name, .table .header part.entries), last⟩ := by
  induction sections generalizing before current with
  | nil => exact ⟨current, by simp only [List.map_nil, List.append_nil]; rfl⟩
  | cons part sections ih =>
      have fresh : part.name ∉ before.map Prod.fst := by
        intro found
        exact (List.nodup_append.mp distinct).2.2 _ found _ List.mem_cons_self rfl
      obtain ⟨last, built⟩ := ih (before ++ [(part.name, .table .header part.entries)]) [part.name]
        (by simpa using distinct) fun part found => members part (List.mem_cons_of_mem _ found)
      refine ⟨last, ?_⟩
      rw [List.append_assoc] at built
      rw [sectionStatements, List.flatMap_cons, List.foldlM_append,
        part.build before current fresh (members part List.mem_cons_self)]
      exact built

theorem members_of_values (members : List (String × Scalar)) :
    entriesToMembers (members.map fun member => (member.1, .value member.2.toToml)) =
      sortMembers (members.map fun member => (member.1, member.2.toToml)) := by
  induction members with
  | nil => rw [List.map_nil, entriesToMembers]; rfl
  | cons member members ih =>
      rw [List.map_cons, entriesToMembers, ih, Node.toValue]
      rfl

def Section.table (part : Section) : Toml :=
  .table (sortMembers (part.members.map fun member => (member.1, member.2.toToml)))

theorem members_of_sections (sections : List Section) :
    entriesToMembers (sections.map fun part => (part.name, .table .header part.entries)) =
      sortMembers (sections.map fun part => (part.name, part.table)) := by
  induction sections with
  | nil => rw [List.map_nil, entriesToMembers]; rfl
  | cons part sections ih =>
      rw [List.map_cons, entriesToMembers, ih, Node.toValue, Section.entries, members_of_values]
      rfl

structure AreWritable (sections : List Section) : Prop where
  bare : ∀ part ∈ sections, part.HasBareNames
  distinct : (sections.map (·.name)).Nodup
  members : ∀ part ∈ sections, part.HasDistinctMembers

theorem parse_sections (sections : List Section) (writable : AreWritable sections) :
    parse (String.ofList (sectionsChars sections)) =
      some (sortMembers (sections.map fun part => (part.name, part.table))) := by
  obtain ⟨last, built⟩ := build_sections [] [] sections writable.distinct writable.members
  rw [read_sections sections writable.bare, ofStatements, Construction.start, built, Option.map_some,
    List.nil_append, members_of_sections]

end Toml

end PageFeedback
