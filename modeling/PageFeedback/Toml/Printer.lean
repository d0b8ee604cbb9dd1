import PageFeedback.Binary64.Text
import PageFeedback.Toml.Value

set_option autoImplicit false

namespace PageFeedback.Toml

def isControl (c : Char) : Bool := (c.toNat < 0x20 && c ≠ '\t' && c ≠ '\n') || c.toNat = 0x7F

def longestRun (c : Char) (before : Nat) : List Char → Nat
  | [] => before
  | d :: rest => if d = c then longestRun c (before + 1) rest else max before (longestRun c 0 rest)

inductive StringForm
  | basic
  | literal
  | longBasic
  | longLiteral
deriving DecidableEq, Repr

def StringForm.of (text : List Char) : StringForm :=
  let broken := text.contains '\n'
  let escaped := if broken then longBasic else basic
  if text.any isControl then escaped
  else if !broken && !text.contains '"' && !text.contains '\\' then .basic
  else if !broken && !text.contains '\x27' then .literal
  else if !text.contains '\\' && longestRun '"' 0 text ≤ 2 then .longBasic
  else if longestRun '\x27' 0 text ≤ 2 then .longLiteral
  else escaped

def hexDigit (value : Nat) : Char := value.digitChar.toUpper

def escapedChar (c : Char) : List Char :=
  if c = '\\' then ['\\', '\\']
  else if c = '\x08' then ['\\', 'b']
  else if c = '\t' then ['\\', 't']
  else if c = '\x0c' then ['\\', 'f']
  else if c = '\r' then ['\\', 'r']
  else if isControl c then
    ['\\', 'u', '0', '0', hexDigit (c.toNat / 16), hexDigit (c.toNat % 16)]
  else [c]

-- The characters of a basic string; `allowed` double quotes in a
-- row need no escape, and `quotes` stand before the text.
def escapedChars (allowed quotes : Nat) : List Char → List Char
  | [] => []
  | c :: rest =>
      if c = '"' then
        if quotes < allowed then '"' :: escapedChars allowed (quotes + 1) rest
        else '\\' :: '"' :: escapedChars allowed 0 rest
      else escapedChar c ++ escapedChars allowed 0 rest

def lineBreakBefore (text : List Char) : List Char := if text.contains '\n' then ['\n'] else []

def stringChars (text : List Char) : List Char :=
  match StringForm.of text with
  | .basic => '"' :: (escapedChars 0 0 text ++ ['"'])
  | .literal => '\x27' :: (text ++ ['\x27'])
  | .longBasic =>
      '"' :: '"' :: '"' :: (lineBreakBefore text ++ escapedChars 2 0 text ++ ['"', '"', '"'])
  | .longLiteral =>
      '\x27' :: '\x27' :: '\x27' :: (lineBreakBefore text ++ text ++ ['\x27', '\x27', '\x27'])

def floatChars : Binary64 → List Char
  | .nan => ['n', 'a', 'n']
  | .infinity negative => Binary64.signChars negative ++ ['i', 'n', 'f']
  | .finite negative size =>
      let plain := Binary64.plain (.finite negative size)
      if plain.contains '.' then plain else plain ++ ['.', '0']

inductive Scalar
  | string (text : String)
  | integer (value : Nat)
  | float (value : Binary64)
  | boolean (value : Bool)

namespace Scalar

def chars : Scalar → List Char
  | string text => stringChars text.toList
  | integer value => digits value
  | float value => floatChars value
  | boolean true => ['t', 'r', 'u', 'e']
  | boolean false => ['f', 'a', 'l', 's', 'e']

def toToml : Scalar → Toml
  | string text => .string text
  | integer value => .integer value
  | float value => .float value
  | boolean value => .boolean value

end Scalar

structure Section where
  name : String
  members : List (String × Scalar)

namespace Section

def lineChars (member : String × Scalar) : List Char :=
  member.1.toList ++ ' ' :: '=' :: ' ' :: (member.2.chars ++ ['\n'])

def chars (part : Section) : List Char :=
  '[' :: (part.name.toList ++ ']' :: '\n' :: part.members.flatMap lineChars)

def toMember (part : Section) : String × Toml :=
  (part.name, .table (part.members.map fun (name, value) => (name, value.toToml)))

end Section

def sectionsChars : List Section → List Char
  | [] => []
  | [last] => last.chars
  | part :: rest => part.chars ++ '\n' :: sectionsChars rest

end PageFeedback.Toml
