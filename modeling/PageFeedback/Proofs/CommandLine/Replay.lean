import PageFeedback.Proofs.CommandLine.Run
import PageFeedback.Proofs.Replay.Consistency
import PageFeedback.Proofs.Replay.Printed
import PageFeedback.Proofs.Transcript.Parts

set_option autoImplicit false

namespace PageFeedback

def ReplayOptions.report (options : ReplayOptions) (settings : FeedbackSettings) (entries : List TranscriptEntry) :
    ReplayReport :=
  if options.live then ReplayReport.ofLive settings (Duration.ofMilliseconds options.stepMs.toNat) entries
  else ReplayReport.ofEntries settings entries

def ReplayReport.Covers (report : ReplayReport) (entries : List TranscriptEntry) : Prop :=
  report.steps.map (fun step => (step.line, step.event, step.status)) =
    entries.map fun entry => (entry.line, entry.event, entry.transaction.status)

namespace ReplayOptions

variable (options : ReplayOptions) (settings : FeedbackSettings) (entries : List TranscriptEntry)

theorem report_of_entries (within : Option LogSpan) :
    (replayEntries options settings entries within).2 = options.report settings entries := by
  unfold replayEntries report
  split <;> rfl

theorem report_covers : (options.report settings entries).Covers entries := by
  unfold report
  split
  · exact (Coordinator.ofTerminal settings).replay_live_records _ entries
  · exact (Coordinator.ofSettings settings).replay_records entries

end ReplayOptions

section

variable {world : World} {common : CommonOptions} {options : ReplayOptions}

theorem settings_of_content {config : Option String} {within : Option LogSpan} {bytes : List UInt8}
    (held : world.file (config.getD (defaultConfigPath world.environment)) = .content bytes) :
    (loadSettings world config within).result = (FeedbackSettings.ofBytes bytes).mapError
      (.settings config (config.getD (defaultConfigPath world.environment))) := by
  cases config with
  | none =>
      rw [Option.getD_none] at held ⊢
      simp only [loadSettings, held]
      rfl
  | some path =>
      rw [Option.getD_some] at held ⊢
      simp only [loadSettings, held]
      rfl

theorem settings_not_found {path : String} {within : Option LogSpan} {file : File}
    (found : world.file path = .granted file) (other : ∀ bytes, file ≠ .content bytes) :
    (loadSettings world (some path) within).result = .error (.noSettingsFile path) := by
  simp only [loadSettings, found]
  cases file with
  | content bytes => exact absurd rfl (other bytes)
  | _ => rfl

theorem settings_refused {path : String} {within : Option LogSpan} {isFile : Bool} {refusal : Refusal}
    (refused : world.file path = .refused isFile refusal) :
    (loadSettings world (some path) within).result = .error
      (if isFile then .settings (some path) path (.unreadable (.refused refusal)) else .noSettingsFile path) := by
  simp only [loadSettings, refused]
  cases isFile <;> rfl

theorem settings_refused_by_default {within : Option LogSpan} {isFile : Bool} {refusal : Refusal}
    (refused : world.file (defaultConfigPath world.environment) = .refused isFile refusal) :
    (loadSettings world none within).result =
      .error (.settings none (defaultConfigPath world.environment) (.unreadable (.refused refusal))) := by
  simp only [loadSettings, refused]
  rfl

theorem settings_by_default {within : Option LogSpan}
    (missing : world.file (defaultConfigPath world.environment) = .missing) :
    (loadSettings world none within).result = .ok .default := by
  simp only [loadSettings, missing]
  rfl

theorem transcript_missing (path : String) : readTranscript path .missing = .error (.transcriptFile path .notFound) := rfl

theorem transcript_refused {access : Access} {bytes bad : List UInt8} {before after : List (List UInt8)}
    {earlier : List TranscriptEntry} {fault : LineFault} (path : String) (held : access.read = .ok bytes)
    (lines : Transcript.splitLines bytes = before ++ bad :: after)
    (valid : Transcript.readLines 1 before = .ok earlier)
    (refused : Transcript.readLine (before.length + 1) bad = .error fault) :
    readTranscript path access = .error (.transcript path ⟨before.length + 1, fault⟩) := by
  rw [Nat.add_comm before.length 1] at refused ⊢
  rw [readTranscript, held]
  change (Transcript.readLines 1 (Transcript.splitLines bytes)).mapError _ = _
  rw [lines, Transcript.read_lines_bad valid refused]
  rfl

theorem replay_without_settings {fault : CommandFault}
    (unloaded : (loadSettings world common.config (some (replaySpan options.transcript))).result = .error fault) :
    (runReplay world common options).result = .error fault := by
  unfold runReplay
  dsimp only
  rw [unloaded]

theorem replay_with_settings {settings : FeedbackSettings}
    (loaded : (loadSettings world common.config (some (replaySpan options.transcript))).result = .ok settings) :
    (runReplay world common options).result =
      (readTranscript options.transcript (Invocation.fileAfter common world
        (loadSettings world common.config (some (replaySpan options.transcript))).effects options.transcript)).map
        (options.report settings) := by
  unfold runReplay
  dsimp only
  rw [loaded]
  dsimp only
  split
  next fault unread =>
    rw [unread]
    rfl
  next entries read =>
    rw [read]
    exact congrArg Except.ok (options.report_of_entries settings entries _)

end

-- All of a report is printed, and the report has a step for each entry.
structure Run.Reports (run : Run) (world : World) (form : ReportForm) (report : ReplayReport)
    (entries : List TranscriptEntry) : Prop where
  succeeds : run.Succeeds world (form.print report)
  tells : form.Tells report (form.print report)
  covers : report.Covers entries

theorem replay_all_or_nothing (world : World) (common : CommonOptions) (options : ReplayOptions)
    (logging : common.logFile.bind world.appendFault = none) :
    let run := (⟨common, .replay options⟩ : Invocation).run world
    let loaded := loadSettings world common.config (some (replaySpan options.transcript))
    let access := Invocation.fileAfter common world loaded.effects options.transcript
    let transcript := readTranscript options.transcript access
    let default := defaultConfigPath world.environment
    let path := common.config.getD default
    run.logFile = common.logFile ∧
    (∀ fault, loaded.result = .error fault → run.Fails world fault) ∧
    (∀ settings, loaded.result = .ok settings →
      (∀ fault, transcript = .error fault → run.Fails world fault) ∧
      (access = .missing → run.Fails world (.transcriptFile options.transcript .notFound)) ∧
      (∀ bytes before bad after earlier fault, access.read = .ok bytes →
        Transcript.splitLines bytes = before ++ bad :: after → Transcript.readLines 1 before = .ok earlier →
        Transcript.readLine (before.length + 1) bad = .error fault →
        run.Fails world (.transcript options.transcript ⟨before.length + 1, fault⟩)) ∧
      ∀ entries, transcript = .ok entries →
        run.Reports world options.form (options.report settings entries) entries) ∧
    (∀ bytes, world.file path = .content bytes →
      loaded.result = (FeedbackSettings.ofBytes bytes).mapError (.settings common.config path)) ∧
    (common.config = some path →
      (∀ file, world.file path = .granted file → (∀ bytes, file ≠ .content bytes) →
        run.Fails world (.noSettingsFile path)) ∧
      ∀ isFile refusal, world.file path = .refused isFile refusal →
        run.Fails world
          (if isFile then .settings (some path) path (.unreadable (.refused refusal)) else .noSettingsFile path)) ∧
    (common.config = none →
      (∀ isFile refusal, world.file default = .refused isFile refusal →
        run.Fails world (.settings none default (.unreadable (.refused refusal)))) ∧
      (world.file default = .missing → ∀ entries, transcript = .ok entries →
        run.Reports world options.form (options.report .default entries) entries)) ∧
    ((⟨common, .settings true⟩ : Invocation).run world).Succeeds world FeedbackSettings.default.toToml := by
  intro run loaded access transcript default path
  let invocation : Invocation := ⟨common, .replay options⟩
  have unloaded (fault : CommandFault) (failed : loaded.result = .error fault) : run.Fails world fault :=
    invocation.run_fails logging (congrArg (Except.map options.form.print) (replay_without_settings failed))
  have outcome (settings : FeedbackSettings) (done : loaded.result = .ok settings) :
      (invocation.outcome world).result = (transcript.map (options.report settings)).map options.form.print :=
    congrArg (Except.map options.form.print) (replay_with_settings done)
  have unread (settings : FeedbackSettings) (done : loaded.result = .ok settings) (fault : CommandFault)
      (failed : transcript = .error fault) : run.Fails world fault := by
    have result := outcome settings done
    rw [failed] at result
    exact invocation.run_fails logging result
  have reports (settings : FeedbackSettings) (done : loaded.result = .ok settings) (entries : List TranscriptEntry)
      (read : transcript = .ok entries) : run.Reports world options.form (options.report settings entries) entries := by
    have result := outcome settings done
    rw [read] at result
    exact ⟨invocation.run_succeeds logging result, options.form.print_tells _, options.report_covers settings entries⟩
  refine ⟨invocation.run_log_file logging, unloaded,
    fun settings done => ⟨unread settings done, fun missing => ?_, ?_, reports settings done⟩,
    fun bytes held => settings_of_content held, ?_, ?_, ?_⟩
  · have absent : transcript = readTranscript options.transcript .missing := congrArg (readTranscript _) missing
    exact unread settings done _ (absent.trans (transcript_missing _))
  · intro bytes before bad after earlier fault held lines valid refused
    exact unread settings done _ (transcript_refused _ held lines valid refused)
  · intro named
    have loads : loaded = loadSettings world (some path) (some (replaySpan options.transcript)) := by rw [← named]
    exact ⟨fun file found other => unloaded _ (loads ▸ settings_not_found found other),
      fun isFile refusal refused => unloaded _ (loads ▸ settings_refused refused)⟩
  · intro unnamed
    have loads : loaded = loadSettings world none (some (replaySpan options.transcript)) := by rw [← unnamed]
    exact ⟨fun isFile refusal refused => unloaded _ (loads ▸ settings_refused_by_default refused),
      fun missing entries read => reports _ (loads ▸ settings_by_default missing) entries read⟩
  · exact Invocation.run_succeeds ⟨common, .settings true⟩ logging rfl

-- One byte that is no text, after a valid line, takes the report of that line away.
theorem replay_of_stray_byte :
    let line := Text.encode "\x7b\"event\":\"sendError\"\x7d\n".toList
    let world (transcript : List UInt8) : World := {
      file := fun path => if path = "events.jsonl" then .content transcript else .missing
      environment := fun _ => none
      onTerminal := false
      appendFault := fun _ => none
      sameFile := (· == ·)
      time := "" }
    let options : ReplayOptions := ⟨"events.jsonl", .table, false, 0⟩
    let run (transcript : List UInt8) : Run := (⟨{}, .replay options⟩ : Invocation).run (world transcript)
    let entry : TranscriptEntry := ⟨1, .sendError, .unsent⟩
    (({} : CommonOptions).logFile.bind (world line).appendFault = none) ∧
      (run (line ++ [255])).Fails (world (line ++ [255])) (.transcript "events.jsonl" ⟨2, .notUtf8 (.invalid 1 0)⟩) ∧
      (run line).Reports (world line) .table (options.report .default [entry]) [entry] := by
  intro line world options run entry
  have first : Transcript.readLines 1 [line] = .ok [entry] := ok_of_to_option (by decide +kernel)
  have lines : Transcript.splitLines (line ++ [255]) = [line] ++ [255] :: [] := by decide +kernel
  have stray : Transcript.readLine 2 [255] = .error (.notUtf8 (.invalid 1 0)) := rfl
  have whole : readTranscript "events.jsonl" (.content line) = .ok [entry] := ok_of_to_option (by decide +kernel)
  obtain ⟨-, -, settled, -⟩ := replay_all_or_nothing (world (line ++ [255])) {} options rfl
  obtain ⟨-, -, -, -, -, byDefault, -⟩ := replay_all_or_nothing (world line) {} options rfl
  obtain ⟨-, -, fails, -⟩ := settled .default rfl
  obtain ⟨-, reports⟩ := byDefault rfl
  exact ⟨rfl, fails _ [line] [255] [] [entry] _ rfl lines first stray, reports rfl [entry] whole⟩

end PageFeedback
