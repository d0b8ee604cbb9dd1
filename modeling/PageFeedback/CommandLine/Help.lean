import PageFeedback.CommandLine.Arguments

set_option autoImplicit false

namespace PageFeedback

structure OptionHelp where
  letter : Option Char
  spelling : String
  text : String
  notes : List String

namespace OptionHelp

def config : OptionHelp :=
  ⟨none, "--config <PATH>", "Settings file (default: the platform config directory)", []⟩

def verbosity : List OptionHelp :=
  [⟨some 'v', "--verbose...", "Increase logging verbosity", []⟩,
    ⟨some 'q', "--quiet...", "Decrease logging verbosity", []⟩]

def logging : List OptionHelp :=
  [⟨none, "--color <WHEN>", "Controls when to use color",
      ["[default: auto]", "[possible values: auto, always, never]"]⟩,
    ⟨none, "--log-level <LOG_LEVEL>", "Explicit log level (overrides -v/-q flags)",
      ["[possible values: error, warn, info, debug, trace]"]⟩,
    ⟨none, "--log-format <LOG_FORMAT>",
      "Log output format (pretty for human, json for machine parsing)",
      ["[default: pretty]", "[possible values: pretty, compact, json]"]⟩,
    ⟨none, "--log-timestamps", "Include timestamps in log lines", []⟩,
    ⟨none, "--log-target", "Include the emitting module in log lines", []⟩,
    ⟨none, "--log-file <PATH>", "Write logs to a file instead of stderr", []⟩]

def help (text : String) : OptionHelp := ⟨some 'h', "--help", text, []⟩

def version : OptionHelp := ⟨some 'V', "--version", "Print version", []⟩

def program (helpText : String) : List OptionHelp :=
  config :: verbosity ++ logging ++ [help helpText, version]

def replay : List OptionHelp :=
  [config,
    ⟨none, "--format <FORMAT>", "Report format",
      ["[default: table]", "[possible values: table, json]"]⟩,
    ⟨none, "--live", "Draw the progress indicator in the terminal while replaying", []⟩] ++
  verbosity ++
  [⟨none, "--step-ms <MS>", "Pause between events in live mode", ["[default: 150]"]⟩] ++
  logging ++ [help "Print help"]

def settings : List OptionHelp :=
  [config, ⟨none, "--defaults", "Print the built-in defaults instead of the loaded file", []⟩] ++
  verbosity ++ logging ++ [help "Print help"]

def names (option : OptionHelp) : String :=
  match option.letter with
  | some letter => s!"  -{letter}, {option.spelling}"
  | none => s!"      {option.spelling}"

def shortLine (width : Nat) (option : OptionHelp) : String :=
  let filled := option.names ++ String.ofList (List.replicate (width - option.names.length) ' ')
  " ".intercalate (s!"{filled}  {option.text}" :: option.notes) ++ "\n"

def shortLines (options : List OptionHelp) : String :=
  let width := (options.map fun option => option.names.length).foldl max 0
  String.join (options.map (shortLine width))

def paragraph (option : OptionHelp) : String :=
  let indented (text : String) : String := s!"          {text}\n"
  let notes := if option.notes.isEmpty then "" else
    indented "" ++ String.join (option.notes.map indented)
  s!"{option.names}\n{indented option.text}{notes}"

def paragraphs (options : List OptionHelp) : String := "\n".intercalate (options.map paragraph)

end OptionHelp

namespace HelpPage

def commands : String :=
  "Commands:\n  replay    Replay a JSON-lines transcript of lifecycle events\n" ++
  "  settings  Print the effective settings as TOML\n" ++
  "  help      Print this message or the help of the given subcommand(s)\n"

def text : HelpPage → String
  | summary =>
      "Replay htmx request lifecycles through the page feedback coordinator\n\n" ++
      "Usage: agw-feedback [OPTIONS] <COMMAND>\n\n" ++ commands ++ "\nOptions:\n" ++
      OptionHelp.shortLines (OptionHelp.program "Print help (see more with '--help')")
  | full =>
      "Replay recorded htmx request lifecycles through the page feedback coordinator.\n\n" ++
      "Shows which responses are swapped into the page, which toasts appear,\n" ++
      "and what the progress indicator does after every event.\n\n" ++
      "Usage: agw-feedback [OPTIONS] <COMMAND>\n\n" ++ commands ++ "\nOptions:\n" ++
      OptionHelp.paragraphs (OptionHelp.program "Print help (see a summary with '-h')")
  | replay =>
      "Replay a JSON-lines transcript of lifecycle events\n\n" ++
      "Usage: agw-feedback replay [OPTIONS] <TRANSCRIPT>\n\n" ++
      "Arguments:\n  <TRANSCRIPT>  Transcript file, one `\x7b\"event\": ..., \"xhr\": \x7b...\x7d\x7d` " ++
      "object per line\n\nOptions:\n" ++ OptionHelp.shortLines OptionHelp.replay
  | settings =>
      "Print the effective settings as TOML\n\nUsage: agw-feedback settings [OPTIONS]\n\n" ++
      "Options:\n" ++ OptionHelp.shortLines OptionHelp.settings
  | help =>
      "Print this message or the help of the given subcommand(s)\n\n" ++
      "Usage: agw-feedback help [COMMAND]...\n\n" ++
      "Arguments:\n  [COMMAND]...  Print help for the subcommand(s)\n"

end HelpPage

end PageFeedback
