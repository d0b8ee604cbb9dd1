import PageFeedback.Json.Printer
import PageFeedback.Log.Entry
import PageFeedback.Text.Quoted
import PageFeedback.Text.Styling

set_option autoImplicit false

namespace PageFeedback

inductive LogForm
  | pretty
  | compact
  | json
deriving DecidableEq, Repr

def LogForm.labelled : List (String × LogForm) :=
  [("pretty", .pretty), ("compact", .compact), ("json", .json)]

structure LogStyle where
  form : LogForm
  colours : Bool
  timestamps : Bool
  targets : Bool
deriving DecidableEq, Repr

namespace LogLevel

def tag : LogLevel → List Char
  | error => "ERROR".toList
  | warn => " WARN".toList
  | info => " INFO".toList
  | debug => "DEBUG".toList
  | trace => "TRACE".toList

def colour : LogLevel → List Char
  | error => ['3', '1']
  | warn => ['3', '3']
  | info => ['3', '2']
  | debug => ['3', '4']
  | trace => ['3', '5']

end LogLevel

namespace LogValue

def chars : LogValue → List Char
  | shown text => text.toList
  | quoted text => (Text.quoted text).toList
  | number value => digits value
  | truth true => ['t', 'r', 'u', 'e']
  | truth false => ['f', 'a', 'l', 's', 'e']

def toJson : LogValue → Json
  | shown text => .string text
  | quoted text => .string text
  | number value => .number (.integer (.ofNat value))
  | truth value => .bool value

end LogValue

namespace LogStyle

def paint (style : LogStyle) (code text : List Char) : List Char :=
  if style.colours then Text.escapeSequence code ++ text ++ Text.resetSequence else text

def bold (style : LogStyle) (text : List Char) : List Char := style.paint ['1'] text

def dim (style : LogStyle) (text : List Char) : List Char := style.paint ['2'] text

def italic (style : LogStyle) (text : List Char) : List Char := style.paint ['3'] text

def fieldChars (style : LogStyle) (name : String) (value : List Char) : List Char :=
  style.italic name.toList ++ style.dim ['='] ++ value

def spanFields (style : LogStyle) (span : LogSpan) : List Char :=
  List.intercalate [' '] (span.fields.map fun (name, value) => style.fieldChars name value.toList)

def body (style : LogStyle) (entry : LogEntry) : List Char :=
  entry.message.toList ++
    entry.fields.flatMap fun (name, value) => ' ' :: style.fieldChars name value.chars

def timeChars (style : LogStyle) (time : String) : List Char :=
  if style.timestamps then style.dim time.toList ++ [' '] else []

def levelChars (style : LogStyle) (level : LogLevel) : List Char :=
  style.paint level.colour level.tag ++ [' ']

def targetChars (style : LogStyle) (target : String) : List Char :=
  if style.targets then style.dim target.toList ++ style.dim [':'] ++ [' '] else []

def prettySpan (style : LogStyle) (span : LogSpan) : List Char :=
  style.bold span.name.toList ++ style.bold ['{'] ++ style.spanFields span ++ style.bold ['}'] ++
    style.dim [':'] ++ [' ']

def compactSpan (style : LogStyle) (span : LogSpan) : List Char :=
  style.bold span.name.toList ++ [':', ' ']

def prettyLine (style : LogStyle) (time : String) (entry : LogEntry) : List Char :=
  style.timeChars time ++ style.levelChars entry.level ++
    entry.within.elim [] style.prettySpan ++ style.targetChars entry.target ++ style.body entry

def compactLine (style : LogStyle) (time : String) (entry : LogEntry) : List Char :=
  style.timeChars time ++ style.levelChars entry.level ++
    entry.within.elim [] style.compactSpan ++ style.targetChars entry.target ++ style.body entry ++
    entry.within.elim [] fun span => ' ' :: style.dim (style.spanFields span)

def spanJson (span : LogSpan) : Json :=
  .object (span.fields.map (fun (name, value) => (name, .string value)) ++
    [("name", .string span.name)])

def entryJson (style : LogStyle) (time : String) (entry : LogEntry) : Json :=
  let fields := entry.fields.map fun (name, value) => (name, value.toJson)
  let target := if style.targets then [("target", .string entry.target)] else []
  let spans := entry.within.elim [] fun span =>
    [("span", spanJson span), ("spans", .array [spanJson span])]
  let level := String.ofList (entry.level.tag.dropWhile (· = ' '))
  .object ([("timestamp", .string time), ("level", .string level),
    ("fields", .object (("message", .string entry.message) :: fields))] ++ target ++ spans)

def line (style : LogStyle) (time : String) (entry : LogEntry) : String :=
  let chars := match style.form with
    | .pretty => style.prettyLine time entry
    | .compact => style.compactLine time entry
    | .json => (style.entryJson time entry).compact
  String.ofList (chars ++ ['\n'])

end LogStyle

end PageFeedback
