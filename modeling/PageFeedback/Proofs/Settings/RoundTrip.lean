import PageFeedback.Proofs.CommandLine.Run
import PageFeedback.Proofs.Settings.Excerpt

set_option autoImplicit false

namespace PageFeedback

namespace FeedbackSettings

theorem load_saved (settings : FeedbackSettings) :
    load (.content (Text.encode settings.toToml.toList)) =
      match settings.validate with
      | .ok () => .ok settings
      | .error setting => .error (.invalid setting) := by
  have chars : settings.toToml.toList = Toml.sectionsChars settings.sections := String.toList_ofList
  have loaded := settings.sections_are_excerpt.load
  rw [settings.keeping_everything] at loaded
  rw [chars]
  exact loaded

theorem default_accepted : default.validate = .ok () := by decide +kernel

theorem load_accepted (file : File) (settings : FeedbackSettings) (loaded : load file = .ok settings) :
    settings.validate = .ok () := by
  have ofBytes_accepted (bytes : List UInt8) (read : ofBytes bytes = .ok settings) : settings.validate = .ok () := by
    unfold ofBytes at read
    split at read
    · cases read
    · split at read
      · cases read
      · split at read
        · cases read
        next accepted =>
          cases read
          exact accepted
  cases file with
  | missing =>
      -- Without a file the default settings are taken, which are not checked again.
      rw [← Except.ok.inj loaded]
      exact default_accepted
  | stream bytes => exact ofBytes_accepted bytes loaded
  | content bytes => exact ofBytes_accepted bytes loaded
  | directory => cases loaded
  | blocked => cases loaded
  | overlong => cases loaded

theorem load_from_accepted (access : Access) (settings : FeedbackSettings) (loaded : loadFrom access = .ok settings) :
    settings.validate = .ok () := by
  cases access with
  | granted file => exact load_accepted file settings loaded
  | refused isFile refusal => cases loaded

end FeedbackSettings

theorem load_settings_accepted (world : World) (config : Option String) (within : Option LogSpan)
    (settings : FeedbackSettings) (loaded : (loadSettings world config within).result = .ok settings) :
    settings.validate = .ok () := by
  have of_access (access : Access) (wrap : SettingsFault → CommandFault)
      (read : (FeedbackSettings.loadFrom access).mapError wrap = .ok settings) : settings.validate = .ok () := by
    cases result : FeedbackSettings.loadFrom access with
    | error fault =>
        rw [result] at read
        cases read
    | ok found =>
        rw [result] at read
        cases read
        exact FeedbackSettings.load_from_accepted access settings result
  cases config with
  | some path =>
      simp only [loadSettings] at loaded
      split at loaded
      · exact of_access _ _ loaded
      · cases loaded
  | none => exact of_access _ _ loaded

theorem run_settings_accepted (world : World) (common : CommonOptions) (defaults : Bool) (settings : FeedbackSettings)
    (loaded : (runSettings world common defaults).result = .ok settings) : settings.validate = .ok () := by
  unfold runSettings at loaded
  split at loaded
  · rw [← Except.ok.inj loaded]
    exact FeedbackSettings.default_accepted
  · dsimp only at loaded
    split at loaded
    next result _ => exact load_settings_accepted _ _ _ _ (result.trans loaded)
    next => exact load_settings_accepted _ _ _ _ loaded

theorem printed_settings (world : World) (common : CommonOptions) (defaults : Bool)
    (success : ((⟨common, .settings defaults⟩ : Invocation).run world).exitCode = 0) :
    ∃ settings : FeedbackSettings, settings.validate = .ok () ∧
      ((⟨common, .settings defaults⟩ : Invocation).run world).output = settings.toToml := by
  cases logging : common.logFile.bind world.appendFault with
  | some fault =>
      rw [Invocation.run, logging] at success
      cases success
  | none =>
      cases ran : (runSettings world common defaults).result with
      | error fault =>
          have failed := Invocation.run_fails ⟨common, .settings defaults⟩ logging
            (congrArg (Except.map FeedbackSettings.toToml) ran)
          cases success.symm.trans failed.exitCode
      | ok settings =>
          refine ⟨settings, run_settings_accepted world common defaults settings ran, ?_⟩
          have succeeded := Invocation.run_succeeds ⟨common, .settings defaults⟩ logging
            (congrArg (Except.map FeedbackSettings.toToml) ran)
          exact succeeded.output

theorem settings_printed_again (world : World) (common : CommonOptions) (path : String) (settings : FeedbackSettings)
    (accepted : settings.validate = .ok ()) (named : common.config = some path)
    (held : world.file path = .content (Text.encode settings.toToml.toList))
    (logs : common.logFile.bind world.appendFault = none) :
    let run := (⟨common, .settings false⟩ : Invocation).run world
    run.exitCode = 0 ∧ run.output = settings.toToml := by
  have ran : (runSettings world common false).result = .ok settings := by
    have saved := settings.load_saved
    rw [accepted] at saved
    have opened : FeedbackSettings.loadFrom (.content (Text.encode settings.toToml.toList)) = .ok settings := saved
    rw [runSettings, if_neg Bool.false_ne_true, named]
    simp only [loadSettings, held, Access.isFile, if_true, opened]
    rfl
  have succeeds := Invocation.run_succeeds ⟨common, .settings false⟩ logs
    (congrArg (Except.map FeedbackSettings.toToml) ran)
  exact ⟨succeeds.exitCode, succeeds.output⟩

theorem settings_round_trip :
    (∀ settings : FeedbackSettings,
      let saved : File := .content (Text.encode settings.toToml.toList)
      settings.save .missing = some saved ∧ (∀ old, settings.save (.content old) = some saved) ∧
      (settings.validate = .ok () →
        ∃ loaded, FeedbackSettings.load saved = .ok loaded ∧ loaded = settings ∧ loaded.toToml = settings.toToml) ∧
      ∀ setting, settings.validate = .error setting → FeedbackSettings.load saved = .error (.invalid setting)) ∧
    ∀ (world later : World) (common next : CommonOptions) (defaults : Bool) (path : String),
      let printed := (⟨common, .settings defaults⟩ : Invocation).run world
      let again := (⟨next, .settings false⟩ : Invocation).run later
      printed.exitCode = 0 → next.config = some path →
      later.file path = .content (Text.encode printed.output.toList) → next.logFile.bind later.appendFault = none →
      again.exitCode = 0 ∧ again.output = printed.output := by
  refine ⟨fun settings => ?_, ?_⟩
  · intro saved
    have chars : settings.toToml.toList = settings.tomlChars := String.toList_ofList
    have loading := settings.load_saved
    refine ⟨congrArg (fun chars => some (File.content (Text.encode chars))) chars.symm,
      fun old => congrArg (fun chars => some (File.content (Text.encode chars))) chars.symm,
      fun accepted => ⟨settings, ?_, rfl, rfl⟩, fun setting refused => ?_⟩
    · rw [accepted] at loading
      exact loading
    · rw [refused] at loading
      exact loading
  · -- What is printed is the text of accepted settings, so the file that holds it is one of these.
    intro world later common next defaults path printed again success named held logs
    obtain ⟨settings, accepted, output⟩ := printed_settings world common defaults success
    change printed.output = _ at output
    rw [output] at held ⊢
    exact settings_printed_again later next path settings accepted named held logs

end PageFeedback
