import PageFeedback.Text.Alphanumeric
import PageFeedback.Text.Blank
import PageFeedback.Text.Hexadecimal
import PageFeedback.Text.Pattern

set_option autoImplicit false

namespace PageFeedback

structure PatternOptions where
  anyCase : Bool
  byLine : Bool
  dotAll : Bool
  -- A repetition is greedy if it is marked as lazy, and lazy if it is not.
  swapped : Bool
  wide : Bool
  spaced : Bool
  carriages : Bool
deriving DecidableEq, Repr

namespace PatternOptions

def initial : PatternOptions := ⟨false, false, false, false, true, false, false⟩

def change? (options : PatternOptions) (letter : Char) (on : Bool) : Option PatternOptions :=
  if letter = 'i' then some { options with anyCase := on }
  else if letter = 'm' then some { options with byLine := on }
  else if letter = 's' then some { options with dotAll := on }
  else if letter = 'U' then some { options with swapped := on }
  else if letter = 'u' then some { options with wide := on }
  else if letter = 'x' then some { options with spaced := on }
  else if letter = 'R' then some { options with carriages := on }
  else none

-- Reads option letters, of which those after a hyphen are turned off,
-- and says whether a colon ends them; otherwise a parenthesis does.
-- `seen` are the letters before, the last of them first.
def read (seen : List Char) (on : Bool) (options : PatternOptions) :
    List Char → Option (PatternOptions × Bool × List Char)
  | [] => none
  | c :: rest =>
      if c = ':' || c = ')' then
        if seen.head? = some '-' || (c = ')' && seen.isEmpty) then none
        else some (options, c = ':', rest)
      else if seen.contains c then none
      else if c = '-' then read (c :: seen) false options rest
      else
        match options.change? c on with
        | some changed => read (c :: seen) on changed rest
        | none => none

def passOver : Bool → List Char → List Char
  | _, [] => []
  | inComment, c :: rest =>
      if inComment then passOver (c ≠ '\n') rest
      else if Text.isBlank c then passOver false rest
      else if c = '#' then passOver true rest
      else c :: rest

def skip (options : PatternOptions) (chars : List Char) : List Char :=
  if options.spaced then passOver false chars else chars

-- What would need a table of all scripts, such as letters in any
-- case, can be written of ASCII characters alone.
def adapt? (options : PatternOptions) (set : CharacterSet) : Option CharacterSet :=
  if !options.anyCase then some set
  else if options.wide then none
  else some (.anyCase set)

def dot? (options : PatternOptions) : Option CharacterSet :=
  if !options.wide then none
  else if options.dotAll then some (.complement .empty)
  else if options.carriages then some (.complement (.union (.single '\n') (.single '\r')))
  else some (.complement (.single '\n'))

def startAnchor (options : PatternOptions) : Anchor :=
  if !options.byLine then .textStart
  else if options.carriages then .carriageStart
  else .lineStart

def endAnchor (options : PatternOptions) : Anchor :=
  if !options.byLine then .textEnd
  else if options.carriages then .carriageEnd
  else .lineEnd

end PatternOptions

inductive PatternEscape
  | literal (c : Char)
  | set (set : CharacterSet)
  | anchor (anchor : Anchor)
deriving DecidableEq, Repr

namespace PatternEscape

def readCode (width : Nat) (chars : List Char) : Option (Char × List Char) :=
  if (chars.take width).length = width then
    (Text.hexChar? (chars.take width)).map fun c => (c, chars.drop width)
  else none

def controls : List (Char × Char) :=
  [('a', '\x07'), ('f', '\x0c'), ('t', '\t'), ('n', '\n'), ('r', '\r'), ('v', '\x0b')]

def narrowSets : List (Char × String) := [('d', "digit"), ('s', "space"), ('w', "word")]

def anchors : List (Char × Anchor) := [('A', .textStart), ('z', .textEnd)]

def narrowAnchors : List (Char × Anchor) :=
  [('b', .wordBoundary), ('B', .insideOrOutsideWord), ('<', .wordStart), ('>', .wordEnd)]

def ofChar? (wide : Bool) (c : Char) : Option PatternEscape :=
  match controls.lookup c, anchors.lookup c with
  | some control, _ => some (literal control)
  | none, some place => some (anchor place)
  | none, none =>
      match narrowSets.lookup c, narrowAnchors.lookup c with
      | some name, _ => if wide then none else (CharacterSet.ofName? name).map set
      | none, some place => if wide then none else some (anchor place)
      | none, none => if c.toNat < 0x80 && !c.isAlphanum then some (literal c) else none

def read (wide : Bool) : List Char → Option (PatternEscape × List Char)
  | [] => none
  | c :: rest =>
      if c = 'x' then
        match readCode 2 rest with
        | some (code, unread) =>
            if wide || code.toNat < 0x80 then some (literal code, unread) else none
        | none => none
      else if c = 'u' then (readCode 4 rest).map fun (code, unread) => (literal code, unread)
      else if c = 'U' then (readCode 8 rest).map fun (code, unread) => (literal code, unread)
      else (ofChar? wide c).map fun meaning => (meaning, rest)

end PatternEscape

inductive SetOperation
  | intersection
  | difference
  | symmetricDifference
deriving DecidableEq, Repr

def SetOperation.apply : SetOperation → CharacterSet → CharacterSet → CharacterSet
  | intersection => .intersection
  | difference => .difference
  | symmetricDifference => .symmetricDifference

structure OpenSet where
  negated : Bool
  left : Option (CharacterSet × SetOperation)
  items : CharacterSet
deriving DecidableEq, Repr

namespace OpenSet

def insert (current : OpenSet) (set : CharacterSet) : OpenSet :=
  { current with items := .union current.items set }

def joined (current : OpenSet) : CharacterSet :=
  match current.left with
  | some (left, operation) => operation.apply left current.items
  | none => current.items

def operate (current : OpenSet) (operation : SetOperation) : OpenSet :=
  { current with left := some (current.joined, operation), items := .empty }

def close? (current : OpenSet) (options : PatternOptions) : Option CharacterSet :=
  let set := if current.negated then .complement current.joined else current.joined
  if options.wide || set.isNarrow then some set else none

def start? (options : PatternOptions) (chars : List Char) : Option (OpenSet × List Char) :=
  let (negated, rest) := match options.skip chars with
    | '^' :: rest => (true, options.skip rest)
    | rest => (false, rest)
  let current : OpenSet := ⟨negated, none, .empty⟩
  match rest with
  | '-' :: _ =>
      (options.adapt? (.single '-')).map fun set =>
        (current.insert set, rest.dropWhile fun c => c = '-' || options.spaced && Text.isBlank c)
  | ']' :: rest => (options.adapt? (.single ']')).map fun set => (current.insert set, rest)
  | _ => some (current, rest)

def namedSet? (chars : List Char) : Option (Bool × CharacterSet × List Char) :=
  match chars with
  | ':' :: rest =>
      let (negated, written) := match rest with
        | '^' :: written => (true, written)
        | written => (false, written)
      match written.dropWhile (· ≠ ':') with
      | ':' :: ']' :: unread =>
          (CharacterSet.ofName? (String.ofList (written.takeWhile (· ≠ ':')))).map fun set =>
            (negated, set, unread)
      | _ => none
  | _ => none

def readMember (options : PatternOptions) : List Char → Option (PatternEscape × List Char)
  | [] => none
  | '\\' :: rest => PatternEscape.read options.wide rest
  | c :: rest => some (.literal c, rest)

def range? (options : PatternOptions) (first last : Char) : Option CharacterSet :=
  if last < first || (!options.wide && 0x80 ≤ last.toNat) then none
  else options.adapt? (.range first last)

def memberSet? (options : PatternOptions) : PatternEscape → Option CharacterSet
  | .literal c => range? options c c
  | .set set => options.adapt? set
  | .anchor _ => none

def readItem (options : PatternOptions) (chars : List Char) :
    Option (CharacterSet × List Char) := do
  let (first, afterFirst) ← readMember options chars
  let after := options.skip afterFirst
  match after with
  | '-' :: rest =>
      match options.skip rest with
      | [] => none
      | c :: unread =>
          if c = '-' || c = ']' then return (← memberSet? options first, after)
          else
            match first, ← readMember options (c :: unread) with
            | .literal low, (.literal high, unread) => return (← range? options low high, unread)
            | _, _ => none
  | _ => return (← memberSet? options first, after)

def read (options : PatternOptions) :
    Nat → OpenSet → List OpenSet → List Char → Option (CharacterSet × List Char)
  | 0, _, _, _ => none
  | bound + 1, current, outside, chars =>
      match options.skip chars with
      | [] => none
      | '[' :: rest =>
          match namedSet? rest with
          | some (negated, set, unread) => do
              let adapted ← options.adapt? set
              if !negated then read options bound (current.insert adapted) outside unread
              else if options.wide then
                read options bound (current.insert (.complement adapted)) outside unread
              else none
          | none => do
              let (inner, unread) ← start? options rest
              read options bound inner (current :: outside) unread
      | ']' :: rest => do
          let set ← current.close? options
          match outside with
          | [] => return (set, rest)
          | outer :: further => read options bound (outer.insert set) further rest
      | '&' :: '&' :: rest => read options bound (current.operate .intersection) outside rest
      | '-' :: '-' :: rest => read options bound (current.operate .difference) outside rest
      | '~' :: '~' :: rest => read options bound (current.operate .symmetricDifference) outside rest
      | item => do
          let (set, unread) ← readItem options item
          read options bound (current.insert set) outside unread

end OpenSet

-- A group of which the end was not read yet. Finished branches and items
-- stand last first; an item is `none` where options were changed.
structure OpenGroup where
  outer : PatternOptions
  branches : List Pattern
  items : List (Option Pattern)
deriving DecidableEq, Repr

namespace OpenGroup

def branch (group : OpenGroup) : Pattern := Pattern.sequenceOf (group.items.reverse.filterMap id)

def pattern (group : OpenGroup) : Pattern :=
  Pattern.oneOf (group.branch :: group.branches).reverse

end OpenGroup

structure PatternDraft where
  options : PatternOptions
  group : OpenGroup
  outside : List OpenGroup
  names : List (List Char)
deriving DecidableEq, Repr

namespace PatternDraft

def initial : PatternDraft := ⟨.initial, ⟨.initial, [], []⟩, [], []⟩

def addItem (draft : PatternDraft) (item : Option Pattern) : PatternDraft :=
  { draft with group := { draft.group with items := item :: draft.group.items } }

def add (draft : PatternDraft) (pattern : Pattern) : PatternDraft := draft.addItem (some pattern)

def enter (draft : PatternDraft) (options : PatternOptions) : PatternDraft :=
  { draft with options, group := ⟨draft.options, [], []⟩, outside := draft.group :: draft.outside }

def leave? (draft : PatternDraft) : Option PatternDraft :=
  match draft.outside with
  | [] => none
  | outer :: outside =>
      some (PatternDraft.add { draft with options := draft.group.outer, group := outer, outside }
        draft.group.pattern)

def nextBranch (draft : PatternDraft) : PatternDraft :=
  { draft with group :=
    { draft.group with branches := draft.group.branch :: draft.group.branches, items := [] } }

def repeatLast? (draft : PatternDraft) (make : Bool → Pattern → Pattern) (rest : List Char) :
    Option (PatternDraft × List Char) :=
  match draft.group.items with
  | some body :: items =>
      let (marked, unread) := match rest with
        | '?' :: unread => (true, unread)
        | unread => (false, unread)
      let item := make (marked == draft.options.swapped) body
      some ({ draft with group := { draft.group with items := some item :: items } }, unread)
  | _ => none

def isNameChar (atStart : Bool) (c : Char) : Bool :=
  if atStart then c = '_' || (Text.isAlphanumeric c && !c.isDigit)
  else c = '_' || c = '.' || c = '[' || c = ']' || Text.isAlphanumeric c

def enterNamed? (draft : PatternDraft) (chars : List Char) : Option (PatternDraft × List Char) :=
  let name := chars.takeWhile (· ≠ '>')
  match name, chars.dropWhile (· ≠ '>') with
  | first :: others, _ :: rest =>
      if isNameChar true first && others.all (isNameChar false) && !draft.names.contains name then
        some (PatternDraft.enter { draft with names := name :: draft.names } draft.options, rest)
      else none
  | _, _ => none

def enter? (draft : PatternDraft) (chars : List Char) : Option (PatternDraft × List Char) :=
  match chars with
  | '?' :: 'P' :: '<' :: name => draft.enterNamed? name
  | '?' :: '<' :: name => draft.enterNamed? name
  | '?' :: letters =>
      (draft.options.read [] true letters).map fun (options, opens, rest) =>
        if opens then (draft.enter options, rest)
        else ({ draft.addItem none with options }, rest)
  | _ => some (draft.enter draft.options, chars)

def addSet? (draft : PatternDraft) (set : CharacterSet) : Option PatternDraft :=
  (draft.options.adapt? set).map fun adapted => draft.add (.one adapted)

def addEscape? (draft : PatternDraft) : PatternEscape → Option PatternDraft
  | .literal c => draft.addSet? (.single c)
  | .set set => draft.addSet? set
  | .anchor anchor => some (draft.add (.anchored anchor))

def step (draft : PatternDraft) (c : Char) (rest : List Char) :
    Option (PatternDraft × List Char) :=
  if c = '(' then draft.enter? (draft.options.skip rest)
  else if c = ')' then draft.leave?.map (·, rest)
  else if c = '|' then some (draft.nextBranch, rest)
  else if c = '?' then draft.repeatLast? .optional rest
  else if c = '+' then draft.repeatLast? .repeated rest
  else if c = '*' then
    draft.repeatLast? (fun greedy body => .optional greedy (.repeated greedy body)) rest
  else if c = '{' then none
  else if c = '^' then some (draft.add (.anchored draft.options.startAnchor), rest)
  else if c = '$' then some (draft.add (.anchored draft.options.endAnchor), rest)
  else if c = '.' then draft.options.dot?.map fun set => (draft.add (.one set), rest)
  else if c = '[' then do
    let (current, unread) ← OpenSet.start? draft.options rest
    let (set, unread) ← OpenSet.read draft.options (unread.length + 1) current [] unread
    return (draft.add (.one set), unread)
  else if c = '\\' then do
    let (meaning, unread) ← PatternEscape.read draft.options.wide rest
    return (← draft.addEscape? meaning, unread)
  else (draft.addSet? (.single c)).map (·, rest)

def read : Nat → PatternDraft → List Char → Option PatternDraft
  | 0, _, _ => none
  | bound + 1, draft, chars =>
      match draft.options.skip chars with
      | [] => some draft
      | c :: rest =>
          match draft.step c rest with
          | some (next, unread) => read bound next unread
          | none => none

end PatternDraft

def Pattern.ofChars? (chars : List Char) : Option Pattern := do
  let draft ← PatternDraft.initial.read (chars.length + 1) chars
  if draft.outside.isEmpty then return draft.group.pattern else none

end PageFeedback
