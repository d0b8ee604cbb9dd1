import PageFeedback.Text.Pattern.CharacterSet

set_option autoImplicit false

namespace PageFeedback

structure Place where
  before : Option Char
  rest : List Char
deriving DecidableEq, Repr

inductive Anchor
  | textStart
  | textEnd
  | lineStart
  | lineEnd
  -- As `lineStart`, where a carriage return ends a line, too.
  | carriageStart
  | carriageEnd
  | wordBoundary
  | insideOrOutsideWord
  | wordStart
  | wordEnd
deriving DecidableEq, Repr

namespace Anchor

def isWord (c : Option Char) : Bool := c.any fun c => c.isAlphanum || c = '_'

def holds (anchor : Anchor) (place : Place) : Bool :=
  let before := place.before
  let after := place.rest.head?
  match anchor with
  | textStart => before.isNone
  | textEnd => after.isNone
  | lineStart => before.all (· = '\n')
  | lineEnd => after.all (· = '\n')
  | carriageStart => before.all (· = '\n') || (before == some '\r' && after != some '\n')
  | carriageEnd => after.all (· = '\r') || (after == some '\n' && before != some '\r')
  | wordBoundary => isWord before != isWord after
  | insideOrOutsideWord => isWord before == isWord after
  | wordStart => !isWord before && isWord after
  | wordEnd => isWord before && !isWord after

end Anchor

-- The ways to match are ordered: an alternative comes before those after it,
-- and a greedy repetition goes on before it ends.
inductive Pattern
  | empty
  | one (set : CharacterSet)
  | anchored (anchor : Anchor)
  | sequence (first second : Pattern)
  | either (first second : Pattern)
  | optional (greedy : Bool) (body : Pattern)
  | repeated (greedy : Bool) (body : Pattern)
deriving DecidableEq, Repr

namespace Pattern

def found (places : List Place) (place : Place) : List Place :=
  if place ∈ places then places else places ++ [place]

-- Adds the places to which steps lead, in order; a step that goes nowhere
-- is the last of its way. The first argument bounds the steps.
def reach (step : Place → List Place) (greedy : Bool) : Nat → List Place → Place → List Place
  | 0, places, _ => places
  | bound + 1, places, place =>
      (step place).foldl (fun places next =>
        if next ∈ places then places
        else if next = place then found places place
        else if greedy then found (reach step greedy bound places next) next
        else reach step greedy bound (found places next) next) places

def ends : Pattern → Place → List Place
  | empty, place => [place]
  | one set, place =>
      match place.rest with
      | c :: rest => if set.contains c then [⟨some c, rest⟩] else []
      | [] => []
  | anchored anchor, place => if anchor.holds place then [place] else []
  | sequence first second, place => ((first.ends place).flatMap fun next => second.ends next).eraseDups
  | either first second, place => (first.ends place ++ second.ends place).eraseDups
  | optional greedy body, place =>
      if greedy then found (body.ends place) place
      else (place :: body.ends place).eraseDups
  | repeated greedy body, place =>
      reach (fun next => body.ends next) greedy (place.rest.length + 1) [] place

def afterMatch? (pattern : Pattern) : Option Char → List Char → Option (List Char)
  | before, rest =>
      match pattern.ends ⟨before, rest⟩, rest with
      | place :: _, _ => some place.rest
      | [], [] => none
      | [], c :: after => afterMatch? pattern (some c) after

def closes (pattern : Pattern) (text : String) : Bool :=
  pattern.afterMatch? none text.toList == some []

def sequenceOf (patterns : List Pattern) : Pattern :=
  match patterns with
  | [] => empty
  | first :: rest => rest.foldl sequence first

def oneOf : List Pattern → Pattern
  | [] => empty
  | [only] => only
  | first :: rest => either first (oneOf rest)

end Pattern

end PageFeedback
