import PageFeedback.Proofs.Progress
import PageFeedback.Proofs.Settings.RoundTrip

set_option autoImplicit false

namespace PageFeedback

structure Toml.Reordered (document other : List Toml.Section) : Prop where
  tables : (document.map (·.name)).Perm (other.map (·.name))
  members : ∀ part ∈ document, ∀ same ∈ other, part.name = same.name → part.members.Perm same.members

theorem Toml.Reordered.found_before {document other : List Toml.Section} (reordered : Toml.Reordered document other)
    (same : Toml.Section) (found : same ∈ other) :
    ∃ part ∈ document, part.name = same.name ∧ part.members.Perm same.members := by
  obtain ⟨part, before, named⟩ := List.mem_map.mp (reordered.tables.mem_iff.mpr (List.mem_map_of_mem found))
  exact ⟨part, before, named, reordered.members part before same found named⟩

namespace FeedbackSettings

variable {settings : FeedbackSettings} {chosen : String → String → Bool} {document other : List Toml.Section}

theorem IsExcerpt.reordered (excerpt : settings.IsExcerpt chosen document) (reordered : Toml.Reordered document other) :
    settings.IsExcerpt chosen other where
  tables := reordered.tables.nodup excerpt.tables
  members same found := by
    obtain ⟨part, before, -, perm⟩ := reordered.found_before same found
    exact (perm.map Prod.fst).nodup (excerpt.members part before)
  known same found := by
    obtain ⟨part, before, named, perm⟩ := reordered.found_before same found
    obtain ⟨whole, ofWhole, ofName, members⟩ := excerpt.known part before
    exact ⟨whole, ofWhole, named.symm.trans ofName, fun member => perm.symm.mem_iff.trans (members member)⟩
  covered whole ofWhole mentioned := by
    obtain ⟨part, before, named⟩ := excerpt.covered whole ofWhole mentioned
    obtain ⟨same, found, sameName⟩ := List.mem_map.mp (reordered.tables.mem_iff.mp (List.mem_map_of_mem before))
    exact ⟨same, found, sameName.trans named⟩

-- A setting that is checked by itself is either an accepted one or a default.
theorem keeping_accepted (chosen : String → String → Bool) (accepted : settings.validate = .ok ()) :
    (settings.keeping chosen).validate = .ok () := by
  obtain ⟨minimum, header, message⟩ := settings.validate_iff.mp accepted
  obtain ⟨defaultMinimum, defaultHeader, defaultMessage⟩ := default.validate_iff.mp default_accepted
  refine (validate_iff _).mpr ⟨?_, ?_, ?_⟩
  · unfold ProgressSettings.IsAccepted
    dsimp only [keeping, ProgressSettings.keeping]
    split
    · exact minimum
    · exact defaultMinimum
  · dsimp only [keeping, SwapSettings.keeping]
    split
    · exact header
    · exact defaultHeader
  · dsimp only [keeping, ToastSettings.keeping]
    split
    · exact message
    · exact defaultMessage

theorem IsExcerpt.load_accepted (excerpt : settings.IsExcerpt chosen document) (accepted : settings.validate = .ok ()) :
    FeedbackSettings.load (.content (Text.encode (Toml.sectionsChars document))) = .ok (settings.keeping chosen) := by
  rw [excerpt.load, keeping_accepted chosen accepted]

end FeedbackSettings

theorem partial_settings_loaded :
    (∀ (settings : FeedbackSettings) (chosen : String → String → Bool) (document : List Toml.Section),
      settings.validate = .ok () → settings.IsExcerpt chosen document →
      let file : File := .content (Text.encode (Toml.sectionsChars document))
      FeedbackSettings.load file = .ok (settings.keeping chosen) ∧ (settings.keeping chosen).validate = .ok () ∧
      ∀ other, Toml.Reordered document other →
        FeedbackSettings.load (.content (Text.encode (Toml.sectionsChars other))) = FeedbackSettings.load file) ∧
    FeedbackSettings.load (.content []) = .ok .default ∧ FeedbackSettings.load .missing = .ok .default := by
  refine ⟨fun settings chosen document accepted excerpt => ?_, ?_, rfl⟩
  · intro file
    have loaded := excerpt.load_accepted accepted
    refine ⟨loaded, FeedbackSettings.keeping_accepted chosen accepted, fun other reordered => ?_⟩
    exact ((excerpt.reordered reordered).load_accepted accepted).trans loaded.symm
  · -- Nothing is an excerpt without tables.
    have nothing : FeedbackSettings.default.IsExcerpt (fun _ _ => false) [] := by
      refine ⟨List.nodup_nil, ?_, ?_, ?_⟩
      · intro part found
        cases found
      · intro part found
        cases found
      · rintro whole - ⟨name, -, chosen⟩
        cases chosen
    have loaded := nothing.load_accepted FeedbackSettings.default_accepted
    rw [FeedbackSettings.keeping_nothing] at loaded
    exact loaded

theorem three_settings_mentioned :
    let toast : ToastSettings := { ToastSettings.default with durationMs := 2500 }
    let settings : FeedbackSettings :=
      ⟨⟨.zero, false, true⟩, { toast with background := "red", close := false }, ⟨.nonSuccess, "X-Go"⟩⟩
    let text := "[swap]\nredirect_header = \"X-Go\"\npolicy = \"non_success\"\n\n" ++
      "[progress]\n\n[toast]\nduration_ms = 2500\n"
    settings.validate = .ok () ∧
      FeedbackSettings.load (.content (Text.encode text.toList)) = .ok ⟨.default, toast, settings.swap⟩ := by
  intro toast settings text
  let chosen (table name : String) : Bool :=
    [("toast", "duration_ms"), ("swap", "policy"), ("swap", "redirect_header")].contains (table, name)
  let other : List Toml.Section := [
    ⟨"swap", [("redirect_header", .string "X-Go"), ("policy", .string "non_success")]⟩, ⟨"progress", []⟩,
    ⟨"toast", [("duration_ms", .integer 2500)]⟩]
  have accepted : settings.validate = .ok () := by decide +kernel
  have reordered : Toml.Reordered (settings.excerpt chosen) other := by
    have listed : settings.excerpt chosen = [⟨"progress", []⟩, ⟨"toast", [("duration_ms", .integer 2500)]⟩,
        ⟨"swap", [("policy", .string "non_success"), ("redirect_header", .string "X-Go")]⟩] := rfl
    refine ⟨by decide, ?_⟩
    rw [listed]
    simp [other, List.Perm.swap]
  obtain ⟨loaded, -, same⟩ :=
    partial_settings_loaded.1 settings chosen _ accepted (settings.excerpt_is_excerpt chosen)
  have written : Toml.sectionsChars other = text.toList := by decide +kernel
  have kept : settings.keeping chosen = ⟨.default, toast, settings.swap⟩ := by decide +kernel
  refine ⟨accepted, ?_⟩
  rw [← written, same other reordered, loaded, kept]

end PageFeedback
