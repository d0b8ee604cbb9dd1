import PageFeedback.Proofs.Text.Utf8
import PageFeedback.Proofs.Toml.Document
import PageFeedback.Settings.File

set_option autoImplicit false

namespace PageFeedback

namespace Toml

def Section.tomlMembers (part : Section) : List (String × Toml) :=
  part.members.map fun member => (member.1, member.2.toToml)

theorem Section.toml_names (part : Section) : part.tomlMembers.map Prod.fst = part.names := List.map_map

namespace Record

variable {α β : Type} {record : Record α}

theorem read_member_of (record : Record α) (name : String) (read : Toml → Except Misfit β) (put : α → β → α)
    (known : record.fields.find? (fun field => field.name == name) = some (.of name read put)) (written : Toml)
    (content : β) (reads : read written = .ok content) (value : α) :
    record.readMember value (name, written) = .ok (put value content) := by
  rw [readMember, known]
  change (read written).map (put value) = _
  rw [reads]
  rfl

-- The values of a record by which of these members they have; each member adds itself.
structure IsFilledBy (record : Record α) (members : List (String × Toml)) (filled : (String → Bool) → α) : Prop where
  blank : filled (fun _ => false) = record.blank
  member : ∀ chosen, ∀ member ∈ members,
    record.readMember (filled chosen) member = .ok (filled fun name => chosen name || member.1 == name)

variable {members : List (String × Toml)} {filled : (String → Bool) → α}

theorem IsFilledBy.read_members (fills : record.IsFilledBy members filled) (present : List (String × Toml))
    (known : ∀ member ∈ present, member ∈ members) :
    record.readMembers present = .ok (filled fun name => present.any (·.1 == name)) := by
  have more (chosen : String → Bool) :
      present.foldlM record.readMember (filled chosen) =
        .ok (filled fun name => chosen name || present.any (·.1 == name)) := by
    induction present generalizing chosen with
    | nil => simp only [List.any_nil, Bool.or_false]; rfl
    | cons member present ih =>
        obtain ⟨own, later⟩ := List.forall_mem_cons.mp known
        rw [List.foldlM_cons, fills.member chosen member own]
        refine (ih later _).trans ?_
        simp only [List.any_cons, Bool.or_assoc]
  have whole := more fun _ => false
  rw [fills.blank] at whole
  rw [readMembers, whole]
  simp only [Bool.false_or]

theorem IsFilledBy.read_table {whole part : Section} {chosen : String → Bool}
    (fills : record.IsFilledBy whole.tomlMembers filled)
    (congr : ∀ first second, (∀ name ∈ whole.names, first name = second name) → filled first = filled second)
    (distinct : part.HasDistinctMembers)
    (same : ∀ member, member ∈ part.members ↔ member ∈ whole.members ∧ chosen member.1 = true) :
    record.read part.table = .ok (filled chosen) := by
  have sorted : (sortMembers part.tomlMembers).Perm part.tomlMembers :=
    sort_members_perm _ (part.toml_names ▸ distinct)
  have known : ∀ member ∈ sortMembers part.tomlMembers, member ∈ whole.tomlMembers := by
    intro member found
    obtain ⟨scalar, present, rfl⟩ := List.mem_map.mp (sorted.mem_iff.mp found)
    exact List.mem_map_of_mem ((same scalar).mp present).1
  refine (fills.read_members _ known).trans (congrArg Except.ok (congr _ _ fun name inWhole => ?_))
  rw [sorted.any_eq, Bool.eq_iff_iff, List.any_eq_true]
  constructor
  · rintro ⟨member, found, named⟩
    obtain ⟨scalar, present, rfl⟩ := List.mem_map.mp found
    rw [← beq_iff_eq.mp named]
    exact ((same scalar).mp present).2
  · intro mentioned
    obtain ⟨member, found, rfl⟩ := List.mem_map.mp inWhole
    exact ⟨_, List.mem_map_of_mem ((same member).mpr ⟨found, mentioned⟩), beq_self_eq_true _⟩

end Record

end Toml

theorem uint64_reads (value : UInt64) : Toml.uint64? (.integer value.toNat) = .ok value := by
  -- Widths go by the bounds of signed and unsigned numbers together.
  have fits : Toml.widthOf value.toNat = .fits64 := by
    have bound := value.toNat_lt
    exact if_pos ⟨by omega, by omega⟩
  rw [Toml.uint64?, fits]
  dsimp only
  rw [if_pos (Int.natCast_nonneg _), Int.toNat_natCast, UInt64.ofNat_toNat]

theorem gravity_reads (gravity : Gravity) : Toml.choice? Gravity.labelled (.string gravity.label) = .ok gravity := by
  cases gravity <;> rfl

theorem position_reads (position : Position) :
    Toml.choice? Position.labelled (.string position.label) = .ok position := by
  cases position <;> rfl

theorem policy_reads (policy : SwapPolicy) : Toml.choice? SwapPolicy.labelled (.string policy.label) = .ok policy := by
  cases policy <;> rfl

namespace ProgressSettings

def keeping (settings : ProgressSettings) (chosen : String → Bool) : ProgressSettings where
  minimum := if chosen "minimum" then settings.minimum else default.minimum
  trickle := if chosen "trickle" then settings.trickle else default.trickle
  showSpinner := if chosen "show_spinner" then settings.showSpinner else default.showSpinner

theorem keeping_congr (settings : ProgressSettings) {first second : String → Bool}
    (same : ∀ name ∈ settings.tomlSection.names, first name = second name) :
    settings.keeping first = settings.keeping second := by
  simp only [Toml.Section.names, tomlSection, List.map_cons, List.map_nil, List.forall_mem_cons] at same
  simp only [keeping, same]

theorem is_filled (settings : ProgressSettings) :
    record.IsFilledBy settings.tomlSection.tomlMembers settings.keeping := by
  refine ⟨by simp only [keeping, Bool.false_eq_true, if_false, record, default], fun chosen member found => ?_⟩
  simp only [Toml.Section.tomlMembers, tomlSection, List.map_cons, List.map_nil, List.mem_cons, List.not_mem_nil,
    or_false] at found
  rcases found with rfl | rfl | rfl
  · exact (record.read_member_of "minimum" _ _ rfl _ settings.minimum rfl _).trans (by simp [keeping])
  · exact (record.read_member_of "trickle" _ _ rfl _ settings.trickle rfl _).trans (by simp [keeping])
  · exact (record.read_member_of "show_spinner" _ _ rfl _ settings.showSpinner rfl _).trans (by simp [keeping])

end ProgressSettings

namespace ToastSettings

def keeping (settings : ToastSettings) (chosen : String → Bool) : ToastSettings where
  networkErrorText := if chosen "network_error_text" then settings.networkErrorText else default.networkErrorText
  background := if chosen "background" then settings.background else default.background
  gravity := if chosen "gravity" then settings.gravity else default.gravity
  position := if chosen "position" then settings.position else default.position
  close := if chosen "close" then settings.close else default.close
  stopOnFocus := if chosen "stop_on_focus" then settings.stopOnFocus else default.stopOnFocus
  newWindow := if chosen "new_window" then settings.newWindow else default.newWindow
  durationMs := if chosen "duration_ms" then settings.durationMs else default.durationMs

theorem keeping_congr (settings : ToastSettings) {first second : String → Bool}
    (same : ∀ name ∈ settings.tomlSection.names, first name = second name) :
    settings.keeping first = settings.keeping second := by
  simp only [Toml.Section.names, tomlSection, List.map_cons, List.map_nil, List.forall_mem_cons] at same
  simp only [keeping, same]

theorem is_filled (settings : ToastSettings) :
    record.IsFilledBy settings.tomlSection.tomlMembers settings.keeping := by
  refine ⟨rfl, fun chosen member found => ?_⟩
  simp only [Toml.Section.tomlMembers, tomlSection, List.map_cons, List.map_nil, List.mem_cons, List.not_mem_nil,
    or_false] at found
  rcases found with rfl | rfl | rfl | rfl | rfl | rfl | rfl | rfl
  · exact (record.read_member_of "network_error_text" _ _ rfl _ settings.networkErrorText rfl _).trans (by simp [keeping])
  · exact (record.read_member_of "background" _ _ rfl _ settings.background rfl _).trans (by simp [keeping])
  · exact (record.read_member_of "gravity" _ _ rfl _ _ (gravity_reads settings.gravity) _).trans (by simp [keeping])
  · exact (record.read_member_of "position" _ _ rfl _ _ (position_reads settings.position) _).trans (by simp [keeping])
  · exact (record.read_member_of "close" _ _ rfl _ settings.close rfl _).trans (by simp [keeping])
  · exact (record.read_member_of "stop_on_focus" _ _ rfl _ settings.stopOnFocus rfl _).trans (by simp [keeping])
  · exact (record.read_member_of "new_window" _ _ rfl _ settings.newWindow rfl _).trans (by simp [keeping])
  · exact (record.read_member_of "duration_ms" _ _ rfl _ _ (uint64_reads settings.durationMs) _).trans
      (by simp [keeping])

end ToastSettings

namespace SwapSettings

def keeping (settings : SwapSettings) (chosen : String → Bool) : SwapSettings where
  policy := if chosen "policy" then settings.policy else default.policy
  redirectHeader := if chosen "redirect_header" then settings.redirectHeader else default.redirectHeader

theorem keeping_congr (settings : SwapSettings) {first second : String → Bool}
    (same : ∀ name ∈ settings.tomlSection.names, first name = second name) :
    settings.keeping first = settings.keeping second := by
  simp only [Toml.Section.names, tomlSection, List.map_cons, List.map_nil, List.forall_mem_cons] at same
  simp only [keeping, same]

theorem is_filled (settings : SwapSettings) :
    record.IsFilledBy settings.tomlSection.tomlMembers settings.keeping := by
  refine ⟨rfl, fun chosen member found => ?_⟩
  simp only [Toml.Section.tomlMembers, tomlSection, List.map_cons, List.map_nil, List.mem_cons, List.not_mem_nil,
    or_false] at found
  rcases found with rfl | rfl
  · exact (record.read_member_of "policy" _ _ rfl _ _ (policy_reads settings.policy) _).trans (by simp [keeping])
  · exact (record.read_member_of "redirect_header" _ _ rfl _ settings.redirectHeader rfl _).trans (by simp [keeping])

end SwapSettings

namespace FeedbackSettings

def keeping (settings : FeedbackSettings) (chosen : String → String → Bool) : FeedbackSettings where
  progress := settings.progress.keeping (chosen "progress")
  toast := settings.toast.keeping (chosen "toast")
  swap := settings.swap.keeping (chosen "swap")

def sections (settings : FeedbackSettings) : List Toml.Section :=
  [settings.progress.tomlSection, settings.toast.tomlSection, settings.swap.tomlSection]

theorem sections_writable (settings : FeedbackSettings) : Toml.AreWritable settings.sections := by
  have progress : settings.progress.tomlSection.names = ["minimum", "trickle", "show_spinner"] := rfl
  have toast : settings.toast.tomlSection.names = ["network_error_text", "background", "gravity", "position", "close",
    "stop_on_focus", "new_window", "duration_ms"] := rfl
  have swap : settings.swap.tomlSection.names = ["policy", "redirect_header"] := rfl
  refine ⟨?_, (by decide : ["progress", "toast", "swap"].Nodup), ?_⟩ <;> intro part found <;>
    simp only [sections, List.mem_cons, List.not_mem_nil, or_false] at found <;> rcases found with rfl | rfl | rfl
  · exact ⟨(by decide : Toml.IsBare "progress"), by rw [progress]; decide⟩
  · exact ⟨(by decide : Toml.IsBare "toast"), by rw [toast]; decide⟩
  · exact ⟨(by decide : Toml.IsBare "swap"), by rw [swap]; decide⟩
  · exact (progress ▸ by decide : settings.progress.tomlSection.names.Nodup)
  · exact (toast ▸ by decide : settings.toast.tomlSection.names.Nodup)
  · exact (swap ▸ by decide : settings.swap.tomlSection.names.Nodup)

theorem keeping_congr (settings : FeedbackSettings) {first second : String → String → Bool}
    (same : ∀ whole ∈ settings.sections, ∀ name ∈ whole.names, first whole.name name = second whole.name name) :
    settings.keeping first = settings.keeping second := by
  simp only [sections, List.forall_mem_cons] at same
  have progress : settings.progress.keeping (first "progress") = settings.progress.keeping (second "progress") :=
    settings.progress.keeping_congr same.1
  have toast : settings.toast.keeping (first "toast") = settings.toast.keeping (second "toast") :=
    settings.toast.keeping_congr same.2.1
  have swap : settings.swap.keeping (first "swap") = settings.swap.keeping (second "swap") :=
    settings.swap.keeping_congr same.2.2.1
  rw [keeping, progress, toast, swap, keeping]

theorem keeping_nothing (settings : FeedbackSettings) : settings.keeping (fun _ _ => false) = default := by
  rw [keeping, settings.progress.is_filled.blank, settings.toast.is_filled.blank, settings.swap.is_filled.blank]
  rfl

theorem keeping_everything (settings : FeedbackSettings) : settings.keeping (fun _ _ => true) = settings := rfl

-- A document of the chosen fields of these settings. Its tables and their fields stand in any order, and a table
-- without a chosen field is either empty or not there.
structure IsExcerpt (settings : FeedbackSettings) (chosen : String → String → Bool) (document : List Toml.Section) :
    Prop where
  tables : (document.map (·.name)).Nodup
  members : ∀ part ∈ document, part.HasDistinctMembers
  known : ∀ part ∈ document, ∃ whole ∈ settings.sections, part.name = whole.name ∧
    ∀ member, member ∈ part.members ↔ member ∈ whole.members ∧ chosen whole.name member.1 = true
  covered : ∀ whole ∈ settings.sections, (∃ name ∈ whole.names, chosen whole.name name = true) →
    ∃ part ∈ document, part.name = whole.name

def excerpt (settings : FeedbackSettings) (chosen : String → String → Bool) : List Toml.Section :=
  settings.sections.map fun whole => ⟨whole.name, whole.members.filter fun member => chosen whole.name member.1⟩

theorem excerpt_is_excerpt (settings : FeedbackSettings) (chosen : String → String → Bool) :
    settings.IsExcerpt chosen (settings.excerpt chosen) where
  tables := settings.sections_writable.distinct
  members part found := by
    obtain ⟨whole, ofWhole, rfl⟩ := List.mem_map.mp found
    exact (List.filter_sublist.map Prod.fst).nodup (settings.sections_writable.members whole ofWhole)
  known part found := by
    obtain ⟨whole, ofWhole, rfl⟩ := List.mem_map.mp found
    exact ⟨whole, ofWhole, rfl, fun _ => List.mem_filter⟩
  covered whole ofWhole _ := ⟨_, List.mem_map_of_mem ofWhole, rfl⟩

theorem sections_are_excerpt (settings : FeedbackSettings) : settings.IsExcerpt (fun _ _ => true) settings.sections :=
  settings.excerpt_is_excerpt fun _ _ => true

namespace IsExcerpt

variable {settings : FeedbackSettings} {chosen : String → String → Bool} {document : List Toml.Section}

theorem writable (excerpt : settings.IsExcerpt chosen document) : Toml.AreWritable document := by
  refine ⟨fun part found => ?_, excerpt.tables, excerpt.members⟩
  obtain ⟨whole, ofWhole, named, same⟩ := excerpt.known part found
  have bare := settings.sections_writable.bare whole ofWhole
  refine ⟨named ▸ bare.1, fun name present => ?_⟩
  obtain ⟨member, ofPart, rfl⟩ := List.mem_map.mp present
  exact bare.2 _ (List.mem_map_of_mem ((same member).mp ofPart).1)

theorem is_filled (excerpt : settings.IsExcerpt chosen document) :
    record.IsFilledBy (document.map fun part => (part.name, part.table))
      fun read => settings.keeping fun table name => read table && chosen table name := by
  refine ⟨settings.keeping_nothing, fun read member found => ?_⟩
  obtain ⟨part, ofDocument, rfl⟩ := List.mem_map.mp found
  obtain ⟨whole, ofWhole, named, same⟩ := excerpt.known part ofDocument
  have distinct := excerpt.members part ofDocument
  simp only [sections, List.mem_cons, List.not_mem_nil, or_false] at ofWhole
  rcases ofWhole with rfl | rfl | rfl
  · have table := settings.progress.is_filled.read_table (fun _ _ => settings.progress.keeping_congr) distinct same
    rw [named]
    exact (record.read_member_of "progress" _ _ rfl _ _ table _).trans
      (by simp [keeping, ProgressSettings.tomlSection])
  · have table := settings.toast.is_filled.read_table (fun _ _ => settings.toast.keeping_congr) distinct same
    rw [named]
    exact (record.read_member_of "toast" _ _ rfl _ _ table _).trans
      (by simp [keeping, ToastSettings.tomlSection])
  · have table := settings.swap.is_filled.read_table (fun _ _ => settings.swap.keeping_congr) distinct same
    rw [named]
    exact (record.read_member_of "swap" _ _ rfl _ _ table _).trans
      (by simp [keeping, SwapSettings.tomlSection])

theorem of_toml (excerpt : settings.IsExcerpt chosen document) :
    ofToml (String.ofList (Toml.sectionsChars document)) = .ok (settings.keeping chosen) := by
  have sorted := sort_members_perm (document.map fun part => (part.name, part.table))
    ((List.map_map (l := document)).symm ▸ excerpt.tables)
  rw [ofToml, Toml.parse_sections document excerpt.writable]
  dsimp only
  rw [excerpt.is_filled.read_members _ fun member found => sorted.mem_iff.mp found]
  refine congrArg Except.ok (settings.keeping_congr fun whole ofWhole name inWhole => ?_)
  dsimp only
  rw [sorted.any_eq, Bool.eq_iff_iff, Bool.and_eq_true, and_iff_right_iff_imp, List.any_eq_true]
  intro mentioned
  obtain ⟨part, found, named⟩ := excerpt.covered whole ofWhole ⟨name, inWhole, mentioned⟩
  exact ⟨_, List.mem_map_of_mem found, beq_iff_eq.mpr named⟩

theorem load (excerpt : settings.IsExcerpt chosen document) :
    FeedbackSettings.load (.content (Text.encode (Toml.sectionsChars document))) =
      match (settings.keeping chosen).validate with
      | .ok () => .ok (settings.keeping chosen)
      | .error setting => .error (.invalid setting) := by
  change ofBytes (Text.encode (Toml.sectionsChars document)) = _
  rw [ofBytes, Text.decode_encode]
  dsimp only
  rw [excerpt.of_toml]
  dsimp only
  cases (settings.keeping chosen).validate <;> rfl

end IsExcerpt

end FeedbackSettings

end PageFeedback
