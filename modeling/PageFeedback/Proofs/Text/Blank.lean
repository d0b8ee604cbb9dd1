import Mathlib.Data.List.DropRight
import PageFeedback.Text.Blank

set_option autoImplicit false

namespace PageFeedback.Text

variable {first last : Char}

theorem trim_end_blanks (chars blanks : List Char) (blank : ∀ c ∈ blanks, isBlank c = true) :
    trimEnd (chars ++ blanks) = trimEnd chars := by
  have turned : ∀ c ∈ blanks.reverse, isBlank c = true := fun c found => blank c (List.mem_reverse.mp found)
  rw [trimEnd, List.reverse_append, List.dropWhile_append_of_pos turned, trimEnd]

theorem trim_end_cons (rest : List Char) (visible : isBlank first = false) :
    trimEnd (first :: rest) = first :: trimEnd rest := by
  have stays : [first].dropWhile isBlank = [first] := List.dropWhile_cons_of_neg (by simp [visible])
  rw [trimEnd, List.reverse_cons, List.dropWhile_append, stays]
  split
  next none => rw [trimEnd, List.isEmpty_iff.mp none]; rfl
  next => rw [List.reverse_append]; rfl

theorem trim_visible (inner blanks : List Char) (visible : isBlank first = false) (visibleLast : isBlank last = false)
    (blank : ∀ c ∈ blanks, isBlank c = true) :
    trim (first :: (inner ++ [last]) ++ blanks) = first :: (inner ++ [last]) := by
  have start : trimStart (first :: (inner ++ [last]) ++ blanks) = first :: (inner ++ [last]) ++ blanks :=
    List.dropWhile_cons_of_neg (by simp [visible])
  rw [trim, start, trim_end_blanks _ blanks blank, ← List.cons_append]
  exact List.rdropWhile_concat_neg isBlank _ last (by simp [visibleLast])

theorem trim_head (chars : List Char) : (trim chars).head? = chars.find? fun c => !isBlank c := by
  rw [List.find?_not_eq_head?_dropWhile]
  change (trimEnd (trimStart chars)).head? = (trimStart chars).head?
  cases start : trimStart chars with
  | nil => rfl
  | cons c rest =>
      have visible : isBlank c = false := by
        have found := (List.find?_not_eq_head?_dropWhile isBlank chars).trans (congrArg List.head? start)
        simpa using List.find?_some found
      rw [trim_end_cons rest visible]
      rfl

structure Trims (text kept : List Char) : Prop where
  between : ∃ before after, text = before ++ (kept ++ after) ∧ (∀ c ∈ before, isBlank c = true) ∧
    ∀ c ∈ after, isBlank c = true
  first : ∀ c ∈ kept.head?, isBlank c = false
  last : ∀ c ∈ kept.getLast?, isBlank c = false

theorem trims_trim (text : List Char) : Trims text (trim text) where
  between := by
    refine ⟨text.takeWhile isBlank, (trimStart text).rtakeWhile isBlank, ?_, ?_, ?_⟩
    · have cut : trim text ++ (trimStart text).rtakeWhile isBlank = trimStart text :=
        List.rdropWhile_append_rtakeWhile
      rw [cut]
      exact List.takeWhile_append_dropWhile.symm
    · exact fun c found => List.mem_takeWhile_imp found
    · exact fun c found => List.mem_rtakeWhile_imp found
  first c found := by
    rw [trim_head] at found
    simpa using List.find?_some found
  last c found := by
    obtain ⟨present, same⟩ := List.mem_getLast?_eq_getLast found
    have visible := List.rdropWhile_last_not isBlank (trimStart text) present
    rw [same]
    exact Bool.eq_false_iff.mpr visible

theorem Trims.trim_eq {text kept : List Char} (trims : Trims text kept) : trim text = kept := by
  obtain ⟨before, after, rfl, blankBefore, blankAfter⟩ := trims.between
  have start : trimStart (before ++ (kept ++ after)) = trimStart (kept ++ after) :=
    List.dropWhile_append_of_pos blankBefore
  rw [trim, start]
  cases kept with
  | nil =>
      have nothing : trimStart after = [] := List.dropWhile_eq_nil_iff.mpr blankAfter
      rw [List.nil_append, nothing]
      rfl
  | cons first rest =>
      have stays : trimStart (first :: rest ++ after) = first :: rest ++ after :=
        List.dropWhile_cons_of_neg (by simp [trims.first first rfl])
      have ends : ∀ present : first :: rest ≠ [], ¬ isBlank ((first :: rest).getLast present) = true := by
        intro present
        simp [trims.last _ (List.getLast?_eq_getLast_of_ne_nil present)]
      rw [stays, trim_end_blanks _ after blankAfter]
      exact List.rdropWhile_eq_self_iff.mpr ends

end PageFeedback.Text
