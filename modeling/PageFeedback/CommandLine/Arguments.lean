import PageFeedback.Log.Level
import PageFeedback.Log.Style
import PageFeedback.Powers
import PageFeedback.Text.Leading

set_option autoImplicit false

namespace PageFeedback

inductive ColourChoice
  | auto
  | always
  | never
deriving DecidableEq, Repr

def ColourChoice.labelled : List (String × ColourChoice) :=
  [("auto", .auto), ("always", .always), ("never", .never)]

inductive ReportForm
  | table
  | json
deriving DecidableEq, Repr

def ReportForm.labelled : List (String × ReportForm) := [("table", .table), ("json", .json)]

structure CommonOptions where
  config : Option String := none
  verbose : Nat := 0
  quiet : Nat := 0
  colour : Option ColourChoice := none
  logLevel : Option LogLevel := none
  logForm : Option LogForm := none
  logTimestamps : Bool := false
  logTargets : Bool := false
  logFile : Option String := none
deriving DecidableEq, Repr

def CommonOptions.within (outer inner : CommonOptions) : CommonOptions where
  config := inner.config <|> outer.config
  verbose := if inner.verbose = 0 then outer.verbose else inner.verbose
  quiet := if inner.quiet = 0 then outer.quiet else inner.quiet
  colour := inner.colour <|> outer.colour
  logLevel := inner.logLevel <|> outer.logLevel
  logForm := inner.logForm <|> outer.logForm
  logTimestamps := inner.logTimestamps || outer.logTimestamps
  logTargets := inner.logTargets || outer.logTargets
  logFile := inner.logFile <|> outer.logFile

structure ReplayOptions where
  transcript : String
  form : ReportForm
  live : Bool
  stepMs : UInt64
deriving DecidableEq, Repr

inductive Command
  | replay (options : ReplayOptions)
  | settings (defaults : Bool)
deriving DecidableEq, Repr

structure Invocation where
  common : CommonOptions
  command : Command
deriving DecidableEq, Repr

inductive HelpPage
  | summary
  | full
  | replay
  | settings
  | help
deriving DecidableEq, Repr

inductive Request
  | invoke (invocation : Invocation)
  | help (page : HelpPage)
  | version
  | misuse
deriving DecidableEq, Repr

namespace Arguments

inductive Level
  | program
  | replay
  | settings
deriving DecidableEq, Repr

structure Given where
  common : CommonOptions := {}
  transcript : Option String := none
  form : Option ReportForm := none
  live : Bool := false
  stepMs : Option UInt64 := none
  defaults : Bool := false
deriving DecidableEq, Repr

inductive Named
  | flag (apply : Given → Option Given)
  | value (apply : String → Given → Option Given)
  | help
  | version

def path? (text : String) : Option String := if text = "" then none else some text

def uint64? (text : String) : Option UInt64 :=
  let digits := match text.toList with
    | '+' :: rest => rest
    | rest => rest
  let value := Nat.ofDigitChars 10 digits 0
  if digits.isEmpty || !digits.all Char.isDigit || 2 ^ 64 ≤ value then none
  else some (UInt64.ofNat value)

def once {α : Type} (given : Option α) (value : Option α) : Option (Option α) :=
  if given.isSome then none else value.map some

def onceFlag (given : Bool) : Option Bool := if given then none else some true

def countUp (count : Nat) : Nat := min (count + 1) 255

def more (given : Given) : Given :=
  { given with common := { given.common with verbose := countUp given.common.verbose } }

def less (given : Given) : Given :=
  { given with common := { given.common with quiet := countUp given.common.quiet } }

def common? (name : String) : Option Named :=
  match name with
  | "config" => some (.value fun text given =>
      (once given.common.config (path? text)).map fun config =>
        { given with common := { given.common with config } })
  | "verbose" => some (.flag fun given => some (more given))
  | "quiet" => some (.flag fun given => some (less given))
  | "color" => some (.value fun text given =>
      (once given.common.colour (ColourChoice.labelled.lookup text)).map fun colour =>
        { given with common := { given.common with colour } })
  | "log-level" => some (.value fun text given =>
      (once given.common.logLevel (LogLevel.labelled.lookup text)).map fun logLevel =>
        { given with common := { given.common with logLevel } })
  | "log-format" => some (.value fun text given =>
      (once given.common.logForm (LogForm.labelled.lookup text)).map fun logForm =>
        { given with common := { given.common with logForm } })
  | "log-timestamps" => some (.flag fun given =>
      (onceFlag given.common.logTimestamps).map fun logTimestamps =>
        { given with common := { given.common with logTimestamps } })
  | "log-target" => some (.flag fun given =>
      (onceFlag given.common.logTargets).map fun logTargets =>
        { given with common := { given.common with logTargets } })
  | "log-file" => some (.value fun text given =>
      (once given.common.logFile (path? text)).map fun logFile =>
        { given with common := { given.common with logFile } })
  | "help" => some .help
  | _ => none

def own? (level : Level) (name : String) : Option Named :=
  match level, name with
  | .program, "version" => some .version
  | .replay, "format" => some (.value fun text given =>
      (once given.form (ReportForm.labelled.lookup text)).map fun form => { given with form })
  | .replay, "live" => some (.flag fun given =>
      (onceFlag given.live).map fun live => { given with live })
  | .replay, "step-ms" => some (.value fun text given =>
      (once given.stepMs (uint64? text)).map fun stepMs => { given with stepMs })
  | .settings, "defaults" => some (.flag fun given =>
      (onceFlag given.defaults).map fun defaults => { given with defaults })
  | _, _ => none

def named? (level : Level) (name : String) : Option Named := own? level name <|> common? name

inductive Scan
  | finished (given : Given)
  | command (given : Given) (name : String) (rest : List String)
  | help (long : Bool)
  | version
  | misuse
deriving DecidableEq, Repr

def takeLetters (level : Level) (given : Given) : List Char → Except Scan Given
  | [] => .ok given
  | 'v' :: rest => takeLetters level (more given) rest
  | 'q' :: rest => takeLetters level (less given) rest
  | 'h' :: _ => .error (.help false)
  | 'V' :: _ => .error (if level = .program then .version else .misuse)
  | _ => .error .misuse

def takePlain (level : Level) (given : Given) (text : String) : Option Given :=
  match level with
  | .replay => (once given.transcript (path? text)).map fun transcript => { given with transcript }
  | _ => none

def splitValue (chars : List Char) : String × Option String :=
  let name := String.ofList (chars.takeWhile (· ≠ '='))
  match chars.dropWhile (· ≠ '=') with
  | _ :: value => (name, some (String.ofList value))
  | [] => (name, none)

def isValue (text : String) : Bool := text = "-" || text.toList.head? ≠ some '-'

def scan (level : Level) : Bool → Given → List String → Scan
  | _, given, [] => .finished given
  | true, given, text :: rest =>
      match takePlain level given text with
      | some next => scan level true next rest
      | none => .misuse
  | false, given, text :: rest =>
      if text = "--" then scan level true given rest
      else match Text.after? ['-', '-'] text.toList with
      | some long =>
          match named? level (splitValue long).1, (splitValue long).2 with
          | some .help, none => .help true
          | some .version, none => .version
          | some (.flag apply), none =>
              match apply given with
              | some next => scan level false next rest
              | none => .misuse
          | some (.value apply), some value =>
              match apply value given with
              | some next => scan level false next rest
              | none => .misuse
          | some (.value apply), none =>
              match rest with
              | value :: more =>
                  if isValue value then
                    match apply value given with
                    | some next => scan level false next more
                    | none => .misuse
                  else .misuse
              | [] => .misuse
          | _, _ => .misuse
      | none =>
          match text.toList with
          | '-' :: c :: letters =>
              match takeLetters level given (c :: letters) with
              | .ok next => scan level false next rest
              | .error stop => stop
          | _ =>
              if level = .program && ["replay", "settings", "help"].contains text then
                .command given text rest
              else match takePlain level given text with
                | some next => scan level false next rest
                | none => .misuse

def contradictory (given : Given) : Bool := 0 < given.common.verbose && 0 < given.common.quiet

def helpOn : List String → Request
  | [] => .help .full
  | ["replay"] => .help .replay
  | ["settings"] => .help .settings
  | ["help"] => .help .help
  | _ => .misuse

def finish (outer inner : Given) (command : Command) : Request :=
  if contradictory inner || contradictory outer then .misuse
  else .invoke ⟨outer.common.within inner.common, command⟩

def readReplay (outer : Given) (arguments : List String) : Request :=
  match scan .replay false {} arguments with
  | .finished inner =>
      match inner.transcript with
      | none => .misuse
      | some transcript =>
          finish outer inner (.replay
            ⟨transcript, inner.form.getD .table, inner.live, inner.stepMs.getD 150⟩)
  | .help _ => .help .replay
  | _ => .misuse

def readSettings (outer : Given) (arguments : List String) : Request :=
  match scan .settings false {} arguments with
  | .finished inner => finish outer inner (.settings inner.defaults)
  | .help _ => .help .settings
  | _ => .misuse

def read (arguments : List String) : Request :=
  match scan .program false {} arguments with
  | .command outer "replay" rest => readReplay outer rest
  | .command outer "settings" rest => readSettings outer rest
  | .command _ "help" rest => helpOn rest
  | .help long => .help (if long then .full else .summary)
  | .version => .version
  | _ => .misuse

end Arguments

end PageFeedback
