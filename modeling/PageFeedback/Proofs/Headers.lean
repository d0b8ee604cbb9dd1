import PageFeedback.Proofs.Coordinator

set_option autoImplicit false

namespace PageFeedback

namespace Headers

def folded (name : String) : List Char := name.toList.map Char.toLower

theorem same_name_iff (a b : String) : sameName a b = true ↔ folded a = folded b := beq_iff_eq

def valuesOf (headers : Headers) (name : String) : List String :=
  (headers.entries.filter fun entry => sameName entry.1 name).map Prod.snd

def Holds (headers : Headers) (name : String) : Prop :=
  ∃ entry ∈ headers.entries, sameName entry.1 name = true ∧ entry.2 ≠ ""

-- A value is stored under the name, but the first spelling of it has none.
def Hides (headers : Headers) (name : String) : Prop :=
  headers.Holds name ∧ (headers.valuesOf name).head? = some ""

def Mixes (headers : Headers) (name : String) : Prop :=
  headers.Holds name ∧ ∃ entry ∈ headers.entries, sameName entry.1 name = true ∧ entry.2 = ""

def foldedEntry (entry : String × String) : List Char × String := (folded entry.1, entry.2)

def Recased (headers recased : Headers) : Prop :=
  (headers.entries.map foldedEntry).Perm (recased.entries.map foldedEntry)

theorem get_head (headers : Headers) (name : String) : headers.get? name = (headers.valuesOf name).head? := by
  rw [get?, valuesOf, List.head?_map, List.head?_filter]

theorem mem_values_iff (headers : Headers) (name value : String) :
    value ∈ headers.valuesOf name ↔ ∃ spelling, (spelling, value) ∈ headers.entries ∧ sameName spelling name = true := by
  simp [valuesOf]

theorem holds_iff (headers : Headers) (name : String) : headers.Holds name ↔ ∃ value ∈ headers.valuesOf name, value ≠ "" := by
  constructor
  · rintro ⟨⟨spelling, value⟩, stored, same, present⟩
    exact ⟨value, (headers.mem_values_iff name value).mpr ⟨spelling, stored, same⟩, present⟩
  · rintro ⟨value, found, present⟩
    obtain ⟨spelling, stored, same⟩ := (headers.mem_values_iff name value).mp found
    exact ⟨(spelling, value), stored, same, present⟩

theorem mixes_iff (headers : Headers) (name : String) :
    headers.Mixes name ↔ (∃ value ∈ headers.valuesOf name, value ≠ "") ∧ "" ∈ headers.valuesOf name := by
  rw [Mixes, holds_iff]
  refine and_congr_right fun _ => ⟨?_, ?_⟩
  · rintro ⟨⟨spelling, value⟩, stored, same, empty⟩
    exact (headers.mem_values_iff name "").mpr ⟨spelling, empty ▸ stored, same⟩
  · intro found
    obtain ⟨spelling, stored, same⟩ := (headers.mem_values_iff name "").mp found
    exact ⟨(spelling, ""), stored, same, rfl⟩

theorem mixes_of_hides (headers : Headers) (name : String) (hides : headers.Hides name) : headers.Mixes name := by
  obtain ⟨holds, first⟩ := hides
  exact (headers.mixes_iff name).mpr ⟨(headers.holds_iff name).mp holds, List.mem_of_head? first⟩

theorem values_of_spelling (headers : Headers) {spelling name : String} (same : sameName spelling name = true) :
    headers.valuesOf spelling = headers.valuesOf name := by
  have folding := (same_name_iff spelling name).mp same
  have alike (other : String) : sameName other spelling = sameName other name := by
    rw [Bool.eq_iff_iff, same_name_iff, same_name_iff, folding]
  simp only [valuesOf, alike]

theorem values_folded (headers : Headers) (name : String) :
    headers.valuesOf name =
      ((headers.entries.map foldedEntry).filter fun entry => entry.1 == folded name).map Prod.snd := by
  rw [List.filter_map, List.map_map]
  rfl

theorem Recased.values {headers recased : Headers} (same : headers.Recased recased) (name : String) :
    (headers.valuesOf name).Perm (recased.valuesOf name) := by
  rw [values_folded, values_folded]
  exact (same.filter _).map _

theorem Recased.holds_iff {headers recased : Headers} (same : headers.Recased recased) (name : String) :
    recased.Holds name ↔ headers.Holds name := by
  simp only [Headers.holds_iff, (same.values name).mem_iff]

theorem Recased.mixes_iff {headers recased : Headers} (same : headers.Recased recased) (name : String) :
    recased.Mixes name ↔ headers.Mixes name := by
  simp only [Headers.mixes_iff, (same.values name).mem_iff]

end Headers

theorem ascending_of_names {β : Type} {members others : List (String × β)}
    (sameNames : members.map Prod.fst = others.map Prod.fst) (ascending : Ascending members) : Ascending others := by
  have names : (members.map Prod.fst).Pairwise (· < ·) := List.pairwise_map.mpr ascending
  rw [sameNames] at names
  exact List.pairwise_map.mp names

namespace Headers

theorem recased_of_exchange (headers : Headers) (before between after : List (String × String))
    (first second : String × String) (stored : headers.entries = before ++ first :: (between ++ second :: after))
    (same : folded first.1 = folded second.1) :
    ∃ recased, headers.Recased recased ∧
      recased.entries = before ++ (first.1, second.2) :: (between ++ (second.1, first.2) :: after) := by
  have names : headers.entries.map Prod.fst =
      (before ++ (first.1, second.2) :: (between ++ (second.1, first.2) :: after)).map Prod.fst := by
    simp [stored]
  have exchanged : (headers.entries.map foldedEntry).Perm
      ((before ++ (first.1, second.2) :: (between ++ (second.1, first.2) :: after)).map foldedEntry) := by
    rw [stored, List.map_append, List.map_append]
    refine List.Perm.append_left _ ?_
    simp only [List.map_cons, List.map_append, foldedEntry, same]
    refine (List.Perm.cons _ List.perm_middle).trans ((List.Perm.swap _ _ _).trans ?_)
    exact List.Perm.cons _ List.perm_middle.symm
  exact ⟨⟨_, ascending_of_names names headers.ascending⟩, exchanged, rfl⟩

end Headers

namespace Transaction

theorem has_header_iff_first (transaction : Transaction) (name : String) :
    transaction.hasHeader name = true ↔ ∃ value, (transaction.headers.valuesOf name).head? = some value ∧ value ≠ "" := by
  rw [hasHeader, Headers.get_head]
  cases (transaction.headers.valuesOf name).head? <;> simp

theorem has_header_iff_shown (transaction : Transaction) (name : String) :
    transaction.hasHeader name = true ↔ transaction.headers.Holds name ∧ ¬ transaction.headers.Hides name := by
  rw [has_header_iff_first]
  constructor
  · rintro ⟨value, first, present⟩
    refine ⟨(transaction.headers.holds_iff name).mpr ⟨value, List.mem_of_head? first, present⟩, fun hides => ?_⟩
    exact present (Option.some.inj (first.symm.trans hides.2))
  · rintro ⟨holds, shown⟩
    obtain ⟨value, found, _⟩ := (transaction.headers.holds_iff name).mp holds
    cases values : transaction.headers.valuesOf name with
    | nil => simp [values] at found
    | cons first rest =>
        refine ⟨first, rfl, fun empty => shown ⟨holds, ?_⟩⟩
        rw [values, List.head?_cons, empty]

theorem has_header_of_unmixed (transaction : Transaction) (name : String) (unmixed : ¬ transaction.headers.Mixes name) :
    transaction.hasHeader name = true ↔ transaction.headers.Holds name := by
  rw [has_header_iff_shown]
  exact and_iff_left fun hides => unmixed (transaction.headers.mixes_of_hides name hides)

theorem has_header_spelling (transaction : Transaction) {spelling name : String}
    (same : Headers.sameName spelling name = true) : transaction.hasHeader spelling = transaction.hasHeader name := by
  rw [Bool.eq_iff_iff, has_header_iff_first, has_header_iff_first, transaction.headers.values_of_spelling same]

theorem has_header_recased (transaction : Transaction) (name : String) (unmixed : ¬ transaction.headers.Mixes name)
    (recased : Headers) (same : transaction.headers.Recased recased) :
    { transaction with headers := recased }.hasHeader name = transaction.hasHeader name := by
  have alsoUnmixed : ¬ recased.Mixes name := fun mixes => unmixed ((same.mixes_iff name).mp mixes)
  rw [Bool.eq_iff_iff, has_header_of_unmixed _ name alsoUnmixed, has_header_of_unmixed _ name unmixed]
  exact same.holds_iff name

theorem has_header_at (transaction : Transaction) (name : String) (before after : List (String × String))
    (first : String × String) (stored : transaction.headers.entries = before ++ first :: after)
    (same : Headers.sameName first.1 name = true)
    (others : ∀ earlier ∈ before, (!Headers.sameName earlier.1 name) = true) :
    transaction.hasHeader name = true ↔ first.2 ≠ "" := by
  have found : transaction.headers.entries.find? (fun entry => Headers.sameName entry.1 name) = some first :=
    List.find?_eq_some_iff_append.mpr ⟨same, before, after, stored, others⟩
  simp [hasHeader, Headers.get?, found]

-- Where an empty value and another one are stored, the one that is found can be
-- made to change places with one of the other kind.
theorem recased_otherwise (transaction : Transaction) (name : String) (mixes : transaction.headers.Mixes name) :
    ∃ recased, transaction.headers.Recased recased ∧
      { transaction with headers := recased }.hasHeader name ≠ transaction.hasHeader name := by
  obtain ⟨⟨full, fullStored, fullSame, present⟩, empty, emptyStored, emptySame, absent⟩ := mixes
  have isFound : (transaction.headers.entries.find? fun entry => Headers.sameName entry.1 name).isSome = true :=
    List.find?_isSome.mpr ⟨full, fullStored, fullSame⟩
  obtain ⟨first, found⟩ := Option.isSome_iff_exists.mp isFound
  obtain ⟨same, before, after, stored, others⟩ := List.find?_eq_some_iff_append.mp found
  have second : ∃ entry ∈ transaction.headers.entries, Headers.sameName entry.1 name = true ∧
      (entry.2 ≠ "" ↔ first.2 = "") := by
    by_cases none : first.2 = ""
    · exact ⟨full, fullStored, fullSame, iff_of_true present none⟩
    · exact ⟨empty, emptyStored, emptySame, iff_of_false (fun present => present absent) none⟩
  obtain ⟨second, secondStored, secondSame, otherKind⟩ := second
  have later : second ∈ after := by
    rw [stored] at secondStored
    cases List.mem_append.mp secondStored with
    | inl earlier => simpa [secondSame] using others second earlier
    | inr rest =>
        cases List.mem_cons.mp rest with
        | inl own => exact absurd (own ▸ otherKind) (by simp)
        | inr after => exact after
  obtain ⟨between, rest, split⟩ := List.append_of_mem later
  rw [split] at stored
  have folding : Headers.folded first.1 = Headers.folded second.1 :=
    ((Headers.same_name_iff _ _).mp same).trans ((Headers.same_name_iff _ _).mp secondSame).symm
  obtain ⟨recased, recasing, entries⟩ :=
    transaction.headers.recased_of_exchange before between rest first second stored folding
  refine ⟨recased, recasing, fun unchanged => ?_⟩
  have now := has_header_at { transaction with headers := recased } name before _ (first.1, second.2) entries same others
  have once := transaction.has_header_at name before _ first stored same others
  rw [unchanged, once] at now
  have flips : first.2 ≠ "" ↔ first.2 = "" := now.trans otherKind
  exact iff_not_self flips.symm

end Transaction

namespace Coordinator

variable {P T : Type} [ProgressIndicator P] [ToastSink T]

theorem kept_iff_header (coordinator : Coordinator P T) (detail : EventDetail) :
    (coordinator.handle .afterRequest detail).2.2 = .progressKeptForRedirect ↔
      detail.transaction.hasHeader coordinator.settings.swap.redirectHeader = true := by
  have handles := coordinator.handle_cases .afterRequest detail
  generalize coordinator.handle .afterRequest detail = result at handles
  cases handles with
  | kept follows => exact iff_of_true rfl follows
  | finished last => exact iff_of_false (fun same => nomatch same) (Bool.eq_false_iff.mp last)
  | idle last => exact iff_of_false (fun same => nomatch same) (Bool.eq_false_iff.mp last)

end Coordinator

theorem header_in_any_case (transaction : Transaction) (name : String) :
    let headers := transaction.headers
    (transaction.hasHeader name = true ↔ headers.Holds name ∧ ¬ headers.Hides name) ∧
    (¬ headers.Mixes name → (transaction.hasHeader name = true ↔ headers.Holds name)) ∧
    (∀ spelling, Headers.sameName spelling name = true →
      transaction.hasHeader spelling = transaction.hasHeader name) ∧
    ((∀ recased, headers.Recased recased →
      { transaction with headers := recased }.hasHeader name = transaction.hasHeader name) ↔ ¬ headers.Mixes name) ∧
    ∀ {P T : Type} [ProgressIndicator P] [ToastSink T] (coordinator : Coordinator P T) (shouldSwap : Bool),
      Headers.sameName coordinator.settings.swap.redirectHeader name = true →
      ((coordinator.handle .afterRequest ⟨transaction, shouldSwap⟩).2.2 = .progressKeptForRedirect ↔
        headers.Holds name ∧ ¬ headers.Hides name) := by
  intro headers
  refine ⟨transaction.has_header_iff_shown name, transaction.has_header_of_unmixed name,
    fun _ same => transaction.has_header_spelling same, ⟨?_, transaction.has_header_recased name⟩, ?_⟩
  · intro unchanged mixes
    obtain ⟨recased, same, changed⟩ := transaction.recased_otherwise name mixes
    exact changed (unchanged recased same)
  · intro P T _ _ coordinator shouldSwap same
    rw [coordinator.kept_iff_header, transaction.has_header_spelling same]
    exact transaction.has_header_iff_shown name

theorem redirect_in_other_case :
    let transaction : Transaction := ⟨200, "", .ofList [("content-type", ""), ("hx-location", "/next")]⟩
    let settings : FeedbackSettings := { FeedbackSettings.default with swap := ⟨.okOnly, "HX-LOCATION"⟩ }
    ¬ transaction.headers.Mixes "HX-Location" ∧ transaction.hasHeader "HX-Location" = true ∧
      Headers.sameName settings.swap.redirectHeader "HX-Location" = true ∧
      ((Coordinator.ofSettings settings).handle .afterRequest ⟨transaction, true⟩).2.2 = .progressKeptForRedirect := by
  intro transaction settings
  have unmixed : ¬ transaction.headers.Mixes "HX-Location" := by
    rw [Headers.mixes_iff]
    decide +kernel
  have same : Headers.sameName settings.swap.redirectHeader "HX-Location" = true := by decide +kernel
  obtain ⟨shown, found, -, -, kept⟩ := header_in_any_case transaction "HX-Location"
  have holds : transaction.headers.Holds "HX-Location" := by
    rw [Headers.holds_iff]
    decide +kernel
  have present := (found unmixed).mpr holds
  exact ⟨unmixed, present, same, (kept (Coordinator.ofSettings settings) true same).mpr (shown.mp present)⟩

-- The same header in two spellings, of which one is empty: which of them
-- comes first decides whether the redirect is seen.
theorem empty_spelling_hides_redirect :
    let hidden : Headers := .ofList [("HX-LOCATION", ""), ("hx-location", "/next")]
    let recased : Headers := .ofList [("hx-location", ""), ("HX-LOCATION", "/next")]
    let running : Coordinator ProgressBar ToastQueue :=
      ((Coordinator.ofSettings .default).handle .beforeSend ⟨.unsent, true⟩).1
    hidden.Holds "HX-Location" ∧ hidden.Recased recased ∧
      (⟨200, "", hidden⟩ : Transaction).hasHeader "HX-Location" = false ∧
      (⟨200, "", recased⟩ : Transaction).hasHeader "HX-Location" = true ∧
      (running.handle .afterRequest ⟨⟨200, "", hidden⟩, true⟩).2.2 = .progressFinished ∧
      (running.handle .afterRequest ⟨⟨200, "", recased⟩, true⟩).2.2 = .progressKeptForRedirect := by
  intro hidden recased running
  have holds : hidden.Holds "HX-Location" := by
    rw [Headers.holds_iff]
    decide +kernel
  have recasing : hidden.Recased recased := by
    unfold Headers.Recased
    decide +kernel
  exact ⟨holds, recasing, by decide +kernel, by decide +kernel, by decide +kernel, by decide +kernel⟩

end PageFeedback
