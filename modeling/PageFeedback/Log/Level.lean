set_option autoImplicit false

namespace PageFeedback

inductive LogLevel
  | error
  | warn
  | info
  | debug
  | trace
deriving DecidableEq, Repr

namespace LogLevel

def all : List LogLevel := [error, warn, info, debug, trace]

def name : LogLevel → String
  | error => "error"
  | warn => "warn"
  | info => "info"
  | debug => "debug"
  | trace => "trace"

def labelled : List (String × LogLevel) := all.map fun level => (level.name, level)

def rank : LogLevel → Nat
  | error => 1
  | warn => 2
  | info => 3
  | debug => 4
  | trace => 5

end LogLevel

inductive Threshold
  | off
  | upTo (level : LogLevel)
deriving DecidableEq, Repr

namespace Threshold

def all : List Threshold := off :: LogLevel.all.map upTo

def name : Threshold → String
  | off => "off"
  | upTo level => level.name

def rank : Threshold → Nat
  | off => 0
  | upTo level => level.rank

def admits (threshold : Threshold) (level : LogLevel) : Bool := level.rank ≤ threshold.rank

def lesser (a b : Threshold) : Threshold := if a.rank ≤ b.rank then a else b

def greater (a b : Threshold) : Threshold := if a.rank ≤ b.rank then b else a

def ofRank (rank : Int) : Threshold :=
  if rank ≤ 0 then off else ((all.drop rank.toNat).head?).getD (upTo .trace)

def ofNumber? (chars : List Char) : Option Threshold :=
  let digits := match chars with
    | '+' :: rest => rest
    | rest => rest
  if digits.isEmpty || !digits.all Char.isDigit then none
  else all[Nat.ofDigitChars 10 digits 0]?

def ofText? (text : String) : Option Threshold :=
  match ofNumber? text.toList with
  | some threshold => some threshold
  | none =>
      if text = "" then some (upTo .error)
      else all.find? fun threshold => threshold.name.toList == text.toList.map Char.toLower

end Threshold

end PageFeedback
