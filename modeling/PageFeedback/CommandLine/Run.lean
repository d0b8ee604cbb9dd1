import PageFeedback.CommandLine.Help
import PageFeedback.Log.Filter
import PageFeedback.Log.Style
import PageFeedback.Replay.Tables
import PageFeedback.Settings.File

set_option autoImplicit false

namespace PageFeedback

structure World where
  file : String → Access
  environment : String → Option String
  onTerminal : Bool
  -- Why entries cannot be appended to a file.
  appendFault : String → Option FileFault
  sameFile : String → String → Bool
  time : String
  -- What is said of the file at a path if its text is no TOML document.
  syntaxFault : String → String := fun _ => "not a TOML document"

inductive Effect
  | print (text : String)
  | complain (text : String)
  | log (entry : LogEntry)
  | pause (milliseconds : Nat)
deriving DecidableEq, Repr

structure Run where
  style : LogStyle
  logFile : Option String
  effects : List Effect
  exitCode : Nat
deriving DecidableEq, Repr

namespace Effect

def printed? : Effect → Option String
  | print text => some text
  | _ => none

def complaint? : Effect → Option String
  | complain text => some text
  | _ => none

def entry? : Effect → Option LogEntry
  | log entry => some entry
  | _ => none

end Effect

namespace Run

-- What the command prints, without what it logs.
def output (run : Run) : String := String.join (run.effects.filterMap Effect.printed?)

def complaint (run : Run) : String := String.join (run.effects.filterMap Effect.complaint?)

def entries (run : Run) : List LogEntry := run.effects.filterMap Effect.entry?

-- The log file may be the standard output itself.
def logsToOutput (run : Run) (world : World) : Bool := run.logFile.any (world.sameFile "/dev/stdout")

def shown? (run : Run) (world : World) : Effect → Option String
  | .print text => some text
  | .log entry => if run.logsToOutput world then some (run.style.line world.time entry) else none
  | .complain _ => none
  | .pause _ => none

-- All that arrives at the standard output.
def standardOutput (run : Run) (world : World) : String := String.join (run.effects.filterMap (run.shown? world))

end Run

def defaultConfigPath (environment : String → Option String) : String :=
  match (environment "XDG_CONFIG_HOME").filter fun path => path.toList.head? == some '/' with
  | some base => joined base "actions-gateway/feedback.toml"
  | none =>
      match (environment "HOME").filter (· ≠ "") with
      | some home => joined home ".config/actions-gateway/feedback.toml"
      | none => "feedback.toml"
where
  joined (base rest : String) : String :=
    if base.toList.getLast? == some '/' then base ++ rest else s!"{base}/{rest}"

inductive CommandFault
  | noSettingsFile (path : String)
  | settings (named : Option String) (path : String) (fault : SettingsFault)
  | transcriptFile (path : String) (fault : FileFault)
  | transcript (path : String) (error : TranscriptError)
deriving DecidableEq

namespace CommandFault

def withCause (fault : FileFault) : String := s!"{fault.message}: {fault.reason}"

def settingsReason (syntaxFault path : String) : SettingsFault → String
  | .unreadable fault => withCause fault
  | other => other.message syntaxFault path

def message (syntaxFault : String → String) : CommandFault → String
  | noSettingsFile path => s!"settings file not found: {path}"
  | settings (some named) path fault =>
      s!"load settings from {named}: {settingsReason (syntaxFault path) path fault}"
  | settings none path fault => s!"load settings: {settingsReason (syntaxFault path) path fault}"
  | transcriptFile path fault => s!"read transcript {path}: {withCause fault}"
  | transcript path error => s!"read transcript {path}: {error.message}"

end CommandFault

structure Attempt (α : Type) where
  effects : List Effect
  result : Except CommandFault α

namespace Invocation

def threshold (common : CommonOptions) : Threshold :=
  match common.logLevel with
  | some level => .upTo level
  | none => .ofRank (LogLevel.warn.rank + common.verbose - common.quiet)

def leavesThreshold (common : CommonOptions) : Bool :=
  common.logLevel.isNone && common.verbose = 0 && common.quiet = 0

def filter (common : CommonOptions) (world : World) : LogFilter :=
  let asked :=
    if leavesThreshold common then (world.environment "RUST_LOG").bind LogFilter.ofText? else none
  asked.getD (.upTo (threshold common))

def style (common : CommonOptions) (world : World) : LogStyle where
  form := common.logForm.getD .pretty
  colours := match common.colour.getD .auto with
    | .always => true
    | .never => false
    | .auto => common.logFile.isNone && world.onTerminal
  timestamps := common.logTimestamps
  targets := common.logTargets

def kept (filter : LogFilter) (effects : List Effect) : List Effect :=
  effects.filterMap fun effect =>
    match effect with
    | .log entry => (filter.keep? entry).map .log
    | other => some other

def logText (common : CommonOptions) (world : World) (effects : List Effect) : String :=
  String.join ((kept (filter common world) effects).filterMap fun effect =>
    match effect with
    | .log entry => some ((style common world).line world.time entry)
    | _ => none)

def fileAfter (common : CommonOptions) (world : World) (effects : List Effect) (path : String) :
    Access :=
  if common.logFile.any (world.sameFile path) then
    (world.file path).append (Text.encode (logText common world effects).toList)
  else world.file path

end Invocation

namespace LogTarget

def commands : String := "agw_feedback::commands"

def coordinator : String := "agw_feedback::coordinator"

def settings : String := "agw_feedback::settings"

def toast : String := "agw_feedback::toast"

end LogTarget

def replaySpan (transcript : String) : LogSpan :=
  ⟨"replay", .info, LogTarget.commands, [("transcript", transcript)]⟩

def loadSettings (world : World) (config : Option String) (within : Option LogSpan) :
    Attempt FeedbackSettings :=
  match config with
  | some path =>
      let access := world.file path
      if access.isFile then
        ⟨[], (FeedbackSettings.loadFrom access).mapError (.settings (some path) path)⟩
      else ⟨[], .error (.noSettingsFile path)⟩
  | none =>
      let path := defaultConfigPath world.environment
      let access := world.file path
      let missed : LogEntry := ⟨.debug, LogTarget.settings, "settings file not found, using defaults",
        [("path", .shown path)], within⟩
      ⟨if access = .missing then [.log missed] else [],
        (FeedbackSettings.loadFrom access).mapError (.settings none path)⟩

-- The entries that a step leaves in the log. `shown` toasts were shown before it.
def stepEntries (within : Option LogSpan) (shown : Nat) (step : ReplayStep) : List LogEntry :=
  let toast := step.reaction.toastText.map fun text =>
    (⟨.trace, LogTarget.toast, "toast shown",
      [("id", .shown (ToastId.text ⟨shown + 1⟩)), ("kind", .quoted ToastKind.warning.label),
        ("text", .shown text)], within⟩ : LogEntry)
  let refused : List LogEntry := match step.reaction with
    | .swapSuppressed (.malformedBody reason) =>
        [⟨.warn, LogTarget.coordinator, "failure response body is not JSON",
          [("status", .number step.status.toNat), ("error", .shown reason)], within⟩]
    | _ => []
  refused ++ toast.toList ++ [⟨.debug, LogTarget.coordinator, "lifecycle event handled",
    [("event", .shown step.event.domName), ("status", .number step.status.toNat),
      ("should_swap", .truth step.shouldSwap), ("reaction", .shown step.reaction.describe)], within⟩]

def shownAfter (shown : Nat) (step : ReplayStep) : Nat :=
  if step.reaction.toastText.isSome then shown + 1 else shown

def plainEffects (within : Option LogSpan) : Nat → List ReplayStep → List Effect
  | _, [] => []
  | shown, step :: steps =>
      (stepEntries within shown step).map .log ++ plainEffects within (shownAfter shown step) steps

def liveEffects (within : Option LogSpan) (pause : UInt64) :
    Nat → List Coordinator.LiveStep → List Effect
  | _, [] => []
  | shown, live :: steps =>
      let expired := live.expired.map fun toast =>
        Effect.log
          ⟨.debug, LogTarget.commands, "toast expired", [("text", .shown toast.text)], within⟩
      (stepEntries within shown live.step).map .log ++ .pause pause.toNat :: expired ++
        liveEffects within pause (shownAfter shown live.step) steps

def replayEntries (options : ReplayOptions) (settings : FeedbackSettings)
    (entries : List TranscriptEntry) (within : Option LogSpan) : List Effect × ReplayReport :=
  if options.live then
    let (last, steps) := (Coordinator.ofTerminal settings).replayLive
      (Duration.ofMilliseconds options.stepMs.toNat) entries
    (liveEffects within options.stepMs 0 steps, ReplayReport.collect last (steps.map (·.step)))
  else
    let (last, steps) := (Coordinator.ofSettings settings).replay entries
    (plainEffects within 0 steps, ReplayReport.collect last steps)

def readTranscript (path : String) (access : Access) : Except CommandFault (List TranscriptEntry) :=
  match access.read with
  | .error fault => .error (.transcriptFile path fault)
  | .ok bytes => (Transcript.parse bytes).mapError (.transcript path)

def runReplay (world : World) (common : CommonOptions) (options : ReplayOptions) :
    Attempt ReplayReport :=
  let within := some (replaySpan options.transcript)
  let loaded := loadSettings world common.config within
  match loaded.result with
  | .error fault => ⟨loaded.effects, .error fault⟩
  | .ok settings =>
      let access := Invocation.fileAfter common world loaded.effects options.transcript
      match readTranscript options.transcript access with
      | .error fault => ⟨loaded.effects, .error fault⟩
      | .ok entries =>
          let (effects, report) := replayEntries options settings entries within
          let started : LogEntry := ⟨.info, LogTarget.commands, "replaying transcript",
            [("entries", .number entries.length), ("policy", .quoted settings.swap.policy.label)],
            within⟩
          let finished : LogEntry := ⟨.info, LogTarget.commands, "replay finished",
            [("requests", .number (report.countEvents .beforeSend)),
              ("suppressed_swaps", .number report.suppressedSwaps),
              ("toasts", .number report.toasts.length)], within⟩
          ⟨loaded.effects ++ .log started :: effects ++ [.log finished], .ok report⟩

def runSettings (world : World) (common : CommonOptions) (defaults : Bool) :
    Attempt FeedbackSettings :=
  if defaults then ⟨[], .ok FeedbackSettings.default⟩
  else
    let loaded := loadSettings world common.config none
    let located : LogEntry := ⟨.debug, LogTarget.commands, "settings path",
      [("path", .shown (defaultConfigPath world.environment))], none⟩
    match loaded.result, common.config with
    | .ok settings, none => ⟨loaded.effects ++ [.log located], .ok settings⟩
    | result, _ => ⟨loaded.effects, result⟩

def ReportForm.print (form : ReportForm) (report : ReplayReport) : String :=
  match form with
  | .table => report.text
  | .json => report.toJson.prettyText ++ "\n"

namespace Invocation

def outcome (invocation : Invocation) (world : World) : Attempt String :=
  match invocation.command with
  | .replay options =>
      let replayed := runReplay world invocation.common options
      ⟨replayed.effects, replayed.result.map options.form.print⟩
  | .settings defaults =>
      let loaded := runSettings world invocation.common defaults
      ⟨loaded.effects, loaded.result.map FeedbackSettings.toToml⟩

def run (invocation : Invocation) (world : World) : Run :=
  let common := invocation.common
  let style := style common world
  match common.logFile.bind world.appendFault with
  | some fault =>
      ⟨style, none, [.complain s!"error: failed to initialize logging: {fault.reason}\n"], 1⟩
  | none =>
      let done := invocation.outcome world
      let effects := kept (filter common world) done.effects
      match done.result with
      | .ok text => ⟨style, common.logFile, effects ++ [.print text], 0⟩
      | .error fault =>
          ⟨style, common.logFile, effects ++ [.complain s!"error: {fault.message world.syntaxFault}\n"], 1⟩

end Invocation

def versionText : String := "agw-feedback 0.1.0\n"

namespace Request

def quietRun (effects : List Effect) (exitCode : Nat) : Run :=
  ⟨⟨.pretty, false, false, false⟩, none, effects, exitCode⟩

def run (request : Request) (world : World) : Run :=
  match request with
  | .invoke invocation => invocation.run world
  | .help page => quietRun [.print page.text] 0
  | .version => quietRun [.print versionText] 0
  | .misuse =>
      quietRun [.complain "error: wrong arguments\n\nFor more information, try '--help'.\n"] 2

end Request

end PageFeedback
