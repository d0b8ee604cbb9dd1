import Mathlib.Data.List.Basic
import PageFeedback.CommandLine.Run

set_option autoImplicit false

namespace PageFeedback

namespace Run

-- What a run leaves behind. A log on the standard output comes before the text.
structure Ends (run : Run) (world : World) (exitCode : Nat) (text complaint : String) : Prop where
  exitCode : run.exitCode = exitCode
  output : run.output = text
  alone : run.logFile.any (world.sameFile "/dev/stdout") = false → run.standardOutput world = text
  afterLog : run.logFile.any (world.sameFile "/dev/stdout") = true →
    run.standardOutput world = String.join (run.entries.map (run.style.line world.time)) ++ text
  complaint : run.complaint = complaint

def Succeeds (run : Run) (world : World) (text : String) : Prop := run.Ends world 0 text ""

def Fails (run : Run) (world : World) (fault : CommandFault) : Prop :=
  run.Ends world 1 "" s!"error: {fault.message world.syntaxFault}\n"

end Run

def Effect.isQuiet : Effect → Bool
  | .print _ => false
  | .complain _ => false
  | .log _ => true
  | .pause _ => true

def AreQuiet (effects : List Effect) : Prop := ∀ effect ∈ effects, effect.isQuiet = true

theorem nothing_quiet : AreQuiet [] := fun _ found => nomatch found

theorem logs_quiet {α : Type} (items : List α) (entry : α → LogEntry) :
    AreQuiet (items.map fun item => .log (entry item)) := by
  intro effect found
  obtain ⟨item, -, rfl⟩ := List.mem_map.mp found
  rfl

theorem pause_quiet (milliseconds : Nat) : AreQuiet [.pause milliseconds] := List.forall_mem_singleton.mpr rfl

namespace AreQuiet

variable {effects : List Effect}

theorem append {later : List Effect} (quiet : AreQuiet effects) (quietLater : AreQuiet later) :
    AreQuiet (effects ++ later) :=
  List.forall_mem_append.mpr ⟨quiet, quietLater⟩

theorem kept (quiet : AreQuiet effects) (filter : LogFilter) : AreQuiet (Invocation.kept filter effects) := by
  intro effect found
  obtain ⟨before, present, keeps⟩ := List.mem_filterMap.mp found
  have quietBefore := quiet before present
  cases before with
  | print text => cases quietBefore
  | complain text => cases quietBefore
  | log entry =>
      obtain ⟨shown, -, rfl⟩ := Option.map_eq_some_iff.mp keeps
      rfl
  | pause milliseconds =>
      cases keeps
      rfl

theorem parts_none {α : Type} (quiet : AreQuiet effects) (part : Effect → Option α)
    (passes : ∀ effect : Effect, effect.isQuiet = true → part effect = none) : effects.filterMap part = [] :=
  List.filterMap_eq_nil_iff.mpr fun effect found => passes effect (quiet effect found)

theorem none_printed (quiet : AreQuiet effects) : effects.filterMap Effect.printed? = [] :=
  quiet.parts_none _ fun effect silent => by cases effect <;> first | rfl | cases silent

theorem none_complained (quiet : AreQuiet effects) : effects.filterMap Effect.complaint? = [] :=
  quiet.parts_none _ fun effect silent => by cases effect <;> first | rfl | cases silent

theorem shown_of_log (quiet : AreQuiet effects) {run : Run} {world : World} (toOutput : run.logsToOutput world = true) :
    effects.filterMap (run.shown? world) = (effects.filterMap Effect.entry?).map (run.style.line world.time) := by
  rw [List.map_filterMap]
  refine List.filterMap_congr fun effect found => ?_
  have silent := quiet effect found
  cases effect with
  | print text => cases silent
  | complain text => cases silent
  | log entry => exact if_pos toOutput
  | pause milliseconds => rfl

theorem none_shown (quiet : AreQuiet effects) {run : Run} {world : World} (elsewhere : run.logsToOutput world = false) :
    effects.filterMap (run.shown? world) = [] := by
  refine quiet.parts_none _ fun effect silent => ?_
  cases effect with
  | print text => cases silent
  | complain text => cases silent
  | log entry => exact if_neg (Bool.eq_false_iff.mp elsewhere)
  | pause milliseconds => rfl

-- The last effect is all that the log does not tell.
theorem ends (quiet : AreQuiet effects) (world : World) (style : LogStyle) (logFile : Option String) (last : Effect)
    (loud : last.entry? = none) (exitCode : Nat) :
    (⟨style, logFile, effects ++ [last], exitCode⟩ : Run).Ends world exitCode (String.join last.printed?.toList)
      (String.join last.complaint?.toList) := by
  generalize ran : (⟨style, logFile, effects ++ [last], exitCode⟩ : Run) = run
  have effectsOf : run.effects = effects ++ [last] := ran ▸ rfl
  have shown : [last].filterMap (run.shown? world) = last.printed?.toList := by
    cases last <;> first | rfl | cases loud
  refine ⟨ran ▸ rfl, ?_, fun elsewhere => ?_, fun toOutput => ?_, ?_⟩
  · rw [Run.output, effectsOf, List.filterMap_append, quiet.none_printed]
    cases last <;> rfl
  · rw [Run.standardOutput, effectsOf, List.filterMap_append, quiet.none_shown elsewhere, shown, List.nil_append]
  · have entries : run.entries = effects.filterMap Effect.entry? := by
      simp [Run.entries, effectsOf, loud]
    rw [Run.standardOutput, effectsOf, List.filterMap_append, String.join_append, quiet.shown_of_log toOutput, shown,
      entries]
  · rw [Run.complaint, effectsOf, List.filterMap_append, quiet.none_complained]
    cases last <;> rfl

end AreQuiet

theorem load_settings_quiet (world : World) (config : Option String) (within : Option LogSpan) :
    AreQuiet (loadSettings world config within).effects := by
  cases config with
  | some path =>
      simp only [loadSettings]
      split <;> exact nothing_quiet
  | none =>
      simp only [loadSettings]
      split
      · exact logs_quiet [_] id
      · exact nothing_quiet

theorem run_settings_quiet (world : World) (common : CommonOptions) (defaults : Bool) :
    AreQuiet (runSettings world common defaults).effects := by
  have loading := load_settings_quiet world common.config none
  unfold runSettings
  split
  · exact nothing_quiet
  · dsimp only
    split
    · exact loading.append (logs_quiet [_] id)
    · exact loading

theorem plain_effects_quiet (within : Option LogSpan) (shown : Nat) (steps : List ReplayStep) :
    AreQuiet (plainEffects within shown steps) := by
  induction steps generalizing shown with
  | nil => exact nothing_quiet
  | cons step steps ih => exact (logs_quiet (stepEntries within shown step) id).append (ih _)

theorem live_effects_quiet (within : Option LogSpan) (pause : UInt64) (shown : Nat)
    (steps : List Coordinator.LiveStep) : AreQuiet (liveEffects within pause shown steps) := by
  induction steps generalizing shown with
  | nil => exact nothing_quiet
  | cons live steps ih =>
      have handled := logs_quiet (stepEntries within shown live.step) id
      have expired := logs_quiet live.expired fun toast =>
        ⟨.debug, LogTarget.commands, "toast expired", [("text", .shown toast.text)], within⟩
      exact (handled.append ((pause_quiet pause.toNat).append expired)).append (ih _)

theorem replay_entries_quiet (options : ReplayOptions) (settings : FeedbackSettings) (entries : List TranscriptEntry)
    (within : Option LogSpan) : AreQuiet (replayEntries options settings entries within).1 := by
  unfold replayEntries
  split
  · exact live_effects_quiet _ _ _ _
  · exact plain_effects_quiet _ _ _

theorem run_replay_quiet (world : World) (common : CommonOptions) (options : ReplayOptions) :
    AreQuiet (runReplay world common options).effects := by
  have loading := load_settings_quiet world common.config (some (replaySpan options.transcript))
  unfold runReplay
  dsimp only
  split
  · exact loading
  · split
    · exact loading
    · exact (loading.append ((logs_quiet [_] id).append (replay_entries_quiet _ _ _ _))).append (logs_quiet [_] id)

namespace Invocation

theorem outcome_quiet (invocation : Invocation) (world : World) : AreQuiet (invocation.outcome world).effects := by
  obtain ⟨common, command⟩ := invocation
  cases command with
  | replay options => exact run_replay_quiet world common options
  | settings defaults => exact run_settings_quiet world common defaults

variable (invocation : Invocation) {world : World}

theorem run_logged (logging : invocation.common.logFile.bind world.appendFault = none) :
    invocation.run world =
      let style := style invocation.common world
      let logFile := invocation.common.logFile
      let effects := kept (filter invocation.common world) (invocation.outcome world).effects
      match (invocation.outcome world).result with
      | .ok text => ⟨style, logFile, effects ++ [.print text], 0⟩
      | .error fault => ⟨style, logFile, effects ++ [.complain s!"error: {fault.message world.syntaxFault}\n"], 1⟩ := by
  rw [run]
  dsimp only
  split
  next fault failed =>
    rw [logging] at failed
    cases failed
  next => rfl

theorem run_succeeds (logging : invocation.common.logFile.bind world.appendFault = none) {text : String}
    (done : (invocation.outcome world).result = .ok text) : (invocation.run world).Succeeds world text := by
  have quiet := (invocation.outcome_quiet world).kept (filter invocation.common world)
  have ends := quiet.ends world (style invocation.common world) invocation.common.logFile (.print text) rfl 0
  have alone : String.join (Effect.print text).printed?.toList = text := by simp [Effect.printed?]
  rw [alone] at ends
  rw [invocation.run_logged logging, done]
  exact ends

theorem run_fails (logging : invocation.common.logFile.bind world.appendFault = none) {fault : CommandFault}
    (failed : (invocation.outcome world).result = .error fault) : (invocation.run world).Fails world fault := by
  have quiet := (invocation.outcome_quiet world).kept (filter invocation.common world)
  let complaint := s!"error: {fault.message world.syntaxFault}\n"
  have ends := quiet.ends world (style invocation.common world) invocation.common.logFile (.complain complaint) rfl 1
  have alone : String.join (Effect.complain complaint).complaint?.toList = complaint := by simp [Effect.complaint?]
  rw [alone] at ends
  rw [invocation.run_logged logging, failed]
  exact ends

theorem run_log_file (logging : invocation.common.logFile.bind world.appendFault = none) :
    (invocation.run world).logFile = invocation.common.logFile := by
  rw [invocation.run_logged logging]
  dsimp only
  split <;> rfl

end Invocation

end PageFeedback
