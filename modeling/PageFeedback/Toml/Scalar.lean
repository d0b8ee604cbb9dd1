import PageFeedback.Binary64.Text
import PageFeedback.Text.Hexadecimal
import PageFeedback.Text.Leading
import PageFeedback.Toml.Date
import PageFeedback.Toml.Value

set_option autoImplicit false

namespace PageFeedback.Toml

def isWordChar (c : Char) : Bool :=
  !([' ', '\t', '\r', '\n', '=', ',', '[', ']', '{', '}', '#'].contains c)

def isHexDigit (c : Char) : Bool := (Text.hexValue? c).isSome

def isGrouped : List Char → Bool
  | [] => false
  | '_' :: _ => false
  | [_] => true
  | c :: '_' :: d :: rest => isHexDigit c && isHexDigit d && isGrouped (d :: rest)
  | _ :: rest => isGrouped rest

def ungrouped? (chars : List Char) : Option (List Char) :=
  if isGrouped chars then some (chars.filter fun c => c ≠ '_') else none

def digitRun? (chars : List Char) : Option (List Char) :=
  (ungrouped? chars).filter fun digits => digits.all Char.isDigit

def wholeDigits? (chars : List Char) : Option (List Char) :=
  (digitRun? chars).filter fun digits => digits.length = 1 || digits.head? ≠ some '0'

def splitSign : List Char → Bool × List Char
  | '-' :: rest => (true, rest)
  | '+' :: rest => (false, rest)
  | chars => (false, chars)

def inBase? (base : Nat) (chars : List Char) : Option Toml :=
  if chars.isEmpty then some .illegibleInteger
  else ((ungrouped? chars).bind (Text.valueInBase? base)).map fun value => .integer value

def isFloatMark (c : Char) : Bool := c = '.' || c = 'e' || c = 'E' || c = ' '

def decimalInteger? (negative : Bool) (chars : List Char) : Option Toml :=
  let rest := chars.dropWhile Char.isDigit
  match wholeDigits? chars with
  | some digits =>
      let value : Int := Nat.ofDigitChars 10 digits 0
      some (.integer (if negative then -value else value))
  | none =>
      if chars.head? ≠ some '0' && chars.head? ≠ some '_' && rest.head? = some '_' &&
          !rest.any isFloatMark && isGrouped chars then
        some .illegibleInteger
      else none

def integer? : List Char → Option Toml
  | '0' :: 'x' :: rest => inBase? 16 rest
  | '0' :: 'o' :: rest => inBase? 8 rest
  | '0' :: 'b' :: rest => inBase? 2 rest
  | chars =>
      let (negative, written) := splitSign chars
      decimalInteger? negative written

def isRunChar (c : Char) : Bool := c.isDigit || c = '_'

def exponent? : List Char → Option Int
  | [] => some 0
  | mark :: rest =>
      if mark = 'e' || mark = 'E' then
        let (negative, written) := splitSign rest
        (digitRun? written).map fun digits =>
          let value : Int := Nat.ofDigitChars 10 digits 0
          if negative then -value else value
      else none

def decimal? (chars : List Char) : Option Decimal := do
  let whole ← wholeDigits? (chars.takeWhile isRunChar)
  match chars.dropWhile isRunChar with
  | [] => none
  | '.' :: rest =>
      let fraction ← digitRun? (rest.takeWhile isRunChar)
      let exponent ← exponent? (rest.dropWhile isRunChar)
      return ⟨Nat.ofDigitChars 10 (whole ++ fraction) 0, exponent - fraction.length⟩
  | rest =>
      let exponent ← exponent? rest
      return ⟨Nat.ofDigitChars 10 whole 0, exponent⟩

def float? (chars : List Char) : Option Toml :=
  let (negative, written) := splitSign chars
  if written = ['i', 'n', 'f'] then some (.float (.infinity negative))
  else if written = ['n', 'a', 'n'] then some (.float .nan)
  else (decimal? written).map fun decimal =>
    match decimal.toBinary64 negative with
    | .infinity _ => .hugeFloat
    | value => .float value

def ofWord? (word : List Char) : Option Toml :=
  if word = ['t', 'r', 'u', 'e'] then some (.boolean true)
  else if word = ['f', 'a', 'l', 's', 'e'] then some (.boolean false)
  else match integer? word with
  | some value => some value
  | none =>
      match float? word with
      | some value => some value
      | none => if isDatetime word then some .datetime else none

def readScalar (chars : List Char) : Option (Toml × List Char) :=
  let word := chars.takeWhile isWordChar
  let rest := chars.dropWhile isWordChar
  match date? word, rest with
  | some [], ' ' :: c :: more =>
      if c.isDigit then
        let time := (c :: more).takeWhile isWordChar
        (ofWord? (word ++ ' ' :: time)).map (·, (c :: more).dropWhile isWordChar)
      else (ofWord? word).map (·, rest)
  | _, _ => (ofWord? word).map (·, rest)

end PageFeedback.Toml
