set_option autoImplicit false

namespace PageFeedback

def Ascending {β : Type} (members : List (String × β)) : Prop :=
  members.Pairwise fun a b => a.1 < b.1

def insertMember {β : Type} (name : String) (value : β) : List (String × β) → List (String × β)
  | [] => [(name, value)]
  | (other, kept) :: rest =>
      if name < other then (name, value) :: (other, kept) :: rest
      else if name = other then (name, value) :: rest
      else (other, kept) :: insertMember name value rest

theorem name_lt_of_not_lt {a b : String} (notLess : ¬ a < b) (different : a ≠ b) : b < a :=
  Decidable.byContradiction fun notGreater =>
    different (String.le_antisymm (String.not_lt.mp notGreater) (String.not_lt.mp notLess))

theorem insert_member_subset {β : Type} (name : String) (value : β) (members : List (String × β))
    (member : String × β) (found : member ∈ insertMember name value members) :
    member = (name, value) ∨ member ∈ members := by
  induction members with
  | nil => exact .inl (List.mem_singleton.mp found)
  | cons head rest ih =>
      obtain ⟨other, kept⟩ := head
      unfold insertMember at found
      split at found
      · exact (List.mem_cons.mp found)
      · split at found
        · exact (List.mem_cons.mp found).imp id (List.mem_cons_of_mem _)
        · cases List.mem_cons.mp found with
          | inl same => exact .inr (same ▸ List.mem_cons_self)
          | inr later => exact (ih later).imp id (List.mem_cons_of_mem _)

theorem insert_member_ascending {β : Type} (name : String) (value : β) (members : List (String × β))
    (ascending : Ascending members) : Ascending (insertMember name value members) := by
  induction members with
  | nil => exact List.pairwise_singleton _ _
  | cons head rest ih =>
      obtain ⟨other, kept⟩ := head
      have above := (List.pairwise_cons.mp ascending).1
      have tail := (List.pairwise_cons.mp ascending).2
      unfold insertMember
      split
      next less =>
        refine List.pairwise_cons.mpr ⟨?_, ascending⟩
        intro member found
        cases List.mem_cons.mp found with
        | inl same => exact same ▸ less
        | inr later => exact String.lt_trans less (above member later)
      next notLess =>
        split
        next same =>
          subst same
          exact List.pairwise_cons.mpr ⟨above, tail⟩
        next different =>
          refine List.pairwise_cons.mpr ⟨?_, ih tail⟩
          intro member found
          cases insert_member_subset name value rest member found with
          | inl same => exact same ▸ name_lt_of_not_lt notLess different
          | inr later => exact above member later

end PageFeedback
