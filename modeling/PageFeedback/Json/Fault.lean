import PageFeedback.Text.Utf8

set_option autoImplicit false

namespace PageFeedback.Json

inductive Problem
  | endInList
  | endInObject
  | endInString
  | endInValue
  | expectedColon
  | expectedListCommaOrEnd
  | expectedObjectCommaOrEnd
  | expectedWord
  | expectedValue
  | invalidEscape
  | invalidNumber
  | numberOutOfRange
  | controlCharacter
  | nameNotString
  | loneSurrogate
  | trailingComma
  | trailingCharacters
  | unfinishedSurrogate
  | tooDeep
  | shape (text : String)
deriving DecidableEq, Repr

def Problem.message : Problem → String
  | endInList => "EOF while parsing a list"
  | endInObject => "EOF while parsing an object"
  | endInString => "EOF while parsing a string"
  | endInValue => "EOF while parsing a value"
  | expectedColon => "expected `:`"
  | expectedListCommaOrEnd => "expected `,` or `]`"
  | expectedObjectCommaOrEnd => "expected `,` or `\x7d`"
  | expectedWord => "expected ident"
  | expectedValue => "expected value"
  | invalidEscape => "invalid escape"
  | invalidNumber => "invalid number"
  | numberOutOfRange => "number out of range"
  | controlCharacter => "control character (\\u0000-\\u001F) found while parsing a string"
  | nameNotString => "key must be a string"
  | loneSurrogate => "lone leading surrogate in hex escape"
  | trailingComma => "trailing comma"
  | trailingCharacters => "trailing characters"
  | unfinishedSurrogate => "unexpected end of hex escape"
  | tooDeep => "recursion limit exceeded"
  | shape text => text

inductive Place
  -- `ahead` bytes after the start of what was not read, or at the end of the text.
  | before (unread : List Char) (ahead : Nat)
  | inRecord (unread : List Char)
  | given (line column : Nat)
deriving DecidableEq, Repr

structure Fault where
  problem : Problem
  place : Place
deriving DecidableEq, Repr

abbrev Reader (α : Type) := List Char → Except Fault (α × List Char)

def Fault.here (problem : Problem) (unread : List Char) : Fault := ⟨problem, .before unread 0⟩

def Fault.next (problem : Problem) (unread : List Char) : Fault := ⟨problem, .before unread 1⟩

structure Position where
  line : Nat
  column : Nat
deriving DecidableEq, Repr

def Position.advance (position : Position) : Nat → List Char → Position
  | 0, _ => position
  | _, [] => position
  | bytes, c :: rest =>
      if bytes < c.utf8Size then ⟨position.line, position.column + bytes⟩
      else if c = '\n' then Position.advance ⟨position.line + 1, 0⟩ (bytes - c.utf8Size) rest
      else Position.advance ⟨position.line, position.column + c.utf8Size⟩ (bytes - c.utf8Size) rest

structure Error where
  problem : Problem
  position : Position
deriving DecidableEq, Repr

def Error.message (error : Error) : String :=
  s!"{error.problem.message} at line {error.position.line} column {error.position.column}"

def bytesRead (text unread : List Char) : Nat := Text.byteLength text - Text.byteLength unread

def Place.position (text : List Char) : Place → Position
  | before unread ahead => Position.advance ⟨1, 0⟩ (bytesRead text unread + ahead) text
  | inRecord unread => Position.advance ⟨1, 0⟩ (bytesRead text unread) text
  | given line column => ⟨line, column⟩

def Fault.inText (fault : Fault) (text : List Char) : Error :=
  ⟨fault.problem, fault.place.position text⟩

end PageFeedback.Json
