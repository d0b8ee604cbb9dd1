import PageFeedback.Members

set_option autoImplicit false

namespace PageFeedback

variable {β : Type}

theorem insert_alone (name : String) (value : β) : insertMember name value [] = [(name, value)] := rfl

theorem insert_before {name other : String} (less : name < other) (value kept : β) (rest : List (String × β)) :
    insertMember name value ((other, kept) :: rest) = (name, value) :: (other, kept) :: rest := if_pos less

theorem insert_behind {name other : String} (more : other < name) (value kept : β) (rest : List (String × β)) :
    insertMember name value ((other, kept) :: rest) = (other, kept) :: insertMember name value rest := by
  have notLess : ¬ name < other := fun less => String.lt_irrefl name (String.lt_trans less more)
  have different : name ≠ other := fun same => String.lt_irrefl name (same ▸ more)
  rw [insertMember, if_neg notLess, if_neg different]

theorem insert_last (name : String) (value : β) (members : List (String × β))
    (above : ∀ member ∈ members, member.1 < name) : insertMember name value members = members ++ [(name, value)] := by
  induction members with
  | nil => rfl
  | cons member members ih =>
      rw [insert_behind (above member List.mem_cons_self), List.cons_append,
        ih fun later found => above later (List.mem_cons_of_mem _ found)]

theorem insert_each_of_ascending (before members : List (String × β)) (ascending : Ascending (before ++ members)) :
    members.foldl (fun sorted member => insertMember member.1 member.2 sorted) before = before ++ members := by
  induction members generalizing before with
  | nil => rw [List.foldl_nil, List.append_nil]
  | cons member members ih =>
      have above : ∀ earlier ∈ before, earlier.1 < member.1 := fun earlier found =>
        (List.pairwise_append.mp ascending).2.2 earlier found member List.mem_cons_self
      rw [← List.singleton_append, ← List.append_assoc] at ascending
      rw [List.foldl_cons, insert_last member.1 member.2 before above, ih _ ascending, List.append_assoc]
      rfl

theorem insert_member_perm (name : String) (value : β) (members : List (String × β))
    (fresh : name ∉ members.map Prod.fst) : (insertMember name value members).Perm ((name, value) :: members) := by
  induction members with
  | nil => exact List.Perm.refl _
  | cons member members ih =>
      obtain ⟨other, kept⟩ := member
      obtain ⟨different, later⟩ := not_or.mp fun found => fresh (List.mem_cons.mpr found)
      unfold insertMember
      split
      · exact List.Perm.refl _
      · exact ((ih later).cons (other, kept)).trans (List.Perm.swap _ _ _)

theorem lookup_insert_member (wanted name : String) (value : β) (members : List (String × β)) :
    (insertMember name value members).lookup wanted = ((name, value) :: members).lookup wanted := by
  induction members with
  | nil => rfl
  | cons member members ih =>
      obtain ⟨other, kept⟩ := member
      unfold insertMember
      split
      · rfl
      · split
        next same =>
          rw [List.lookup_cons, List.lookup_cons, List.lookup_cons, same]
          cases wanted == other <;> rfl
        next different =>
          rw [List.lookup_cons, ih, List.lookup_cons, List.lookup_cons, List.lookup_cons]
          by_cases isOther : wanted = other
          · -- The name that is looked for is not the one that was inserted.
            have notName : (wanted == name) = false := beq_false_of_ne fun isName => different (isName ▸ isOther)
            rw [notName]
          · rw [beq_false_of_ne isOther]

theorem lookup_insert_each (wanted : String) (before members : List (String × β)) :
    (members.foldl (fun sorted member => insertMember member.1 member.2 sorted) before).lookup wanted =
      (members.reverse ++ before).lookup wanted := by
  induction members generalizing before with
  | nil => rfl
  | cons member members ih =>
      rw [List.foldl_cons, ih, List.lookup_append, lookup_insert_member, List.reverse_cons, List.append_assoc,
        List.lookup_append]
      rfl

theorem lookup_map_values {γ : Type} (wanted : String) (image : β → γ) (members : List (String × β)) :
    (members.map fun member => (member.1, image member.2)).lookup wanted = (members.lookup wanted).map image := by
  induction members with
  | nil => rfl
  | cons member members ih =>
      rw [List.map_cons, List.lookup_cons, ih, List.lookup_cons]
      cases wanted == member.1 <;> rfl

end PageFeedback
