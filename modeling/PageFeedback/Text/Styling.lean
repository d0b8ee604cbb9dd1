set_option autoImplicit false

namespace PageFeedback.Text

def escape : Char := '\x1b'

def escapeSequence (code : List Char) : List Char := escape :: '[' :: (code ++ ['m'])

def resetSequence : List Char := escapeSequence ['0']

inductive Shape
  | introduced
  | charset
  | charsetChosen
  | opened
  | digits (count : Nat)
  | separated
  | ended
deriving DecidableEq, Repr

namespace Shape

def isIntroducer (c : Char) : Bool := c = escape || c = '\u009b'

def isFinal (c : Char) : Bool :=
  ('A' ≤ c && c ≤ 'P') || c = 'R' || c = 'Z' || c = 'c' || ('f' ≤ c && c ≤ 'n') || c = 'q' ||
    c = 'r' || c = 'y' || c = '=' || c = '>' || c = '<'

-- Where a number can begin or go on; a number of four digits can only be ended by a fifth.
def withDigit (c : Char) : Shape → Option Shape
  | introduced | opened | separated => some (digits 1)
  | charset => some (if c ≤ '2' then charsetChosen else digits 1)
  | digits count => if count < 5 then some (digits (count + 1)) else none
  | charsetChosen | ended => none

def withBracket : Shape → Option Shape
  | introduced | charset | opened => some opened
  | _ => none

def withParenthesis : Shape → Option Shape
  | introduced => some charset
  | charset | opened => some opened
  | _ => none

def withSemicolon : Shape → Option Shape
  | introduced | charset | opened => some opened
  | digits count => if count < 5 then some separated else none
  | separated => some separated
  | charsetChosen | ended => none

def withFinal : Shape → Option Shape
  | introduced | charset | opened | separated => some ended
  | digits count => if count < 5 then some ended else none
  | charsetChosen | ended => none

def next (shape : Shape) (c : Char) : Option Shape :=
  if c.isDigit then shape.withDigit c
  else if c = ';' then shape.withSemicolon
  else if c = '(' || c = ')' then shape.withParenthesis
  else if c = '[' || c = ']' || c = '#' || c = '?' then shape.withBracket
  else if isFinal c then shape.withFinal
  else none

-- A sequence can end here. A digit, too, is a final character.
def isWhole : Shape → Bool
  | charsetChosen | digits _ | ended => true
  | _ => false

end Shape

def sequenceLength (shape : Shape) : List Char → Option Nat
  | [] => none
  | c :: rest => do
      let next ← shape.next c
      match sequenceLength next rest with
      | some length => some (length + 1)
      | none => if next.isWhole then some 1 else none

def sequencesOf : List Char → List (List Char)
  | [] => []
  | c :: rest =>
      if Shape.isIntroducer c then
        match sequenceLength .introduced rest with
        | some length => (c :: rest.take length) :: sequencesOf rest
        | none => sequencesOf rest
      else sequencesOf rest

def stylesAfter (styles : List (List Char)) (sequences : List (List Char)) : List (List Char) :=
  sequences.foldl (fun active sequence =>
    if sequence = resetSequence then [] else active ++ [sequence]) styles

def carryStyles (styles : List (List Char)) : List (List Char) → List (List Char)
  | [] => []
  | line :: rest =>
      let after := stylesAfter styles (sequencesOf line)
      let ending := if after.isEmpty then [] else resetSequence
      (styles.flatten ++ line ++ ending) :: carryStyles after rest

def splitLines : List Char → List (List Char)
  | [] => [[]]
  | c :: rest =>
      if c = '\n' then [] :: splitLines rest
      else match splitLines rest with
        | [] => [[c]]
        | line :: lines => (c :: line) :: lines

end PageFeedback.Text
