import PageFeedback.Binary64.Text
import PageFeedback.Log.Entry
import PageFeedback.Text.Pattern.Reader

set_option autoImplicit false

namespace PageFeedback

inductive FieldValue
  | typed
  | closedBy (written : String) (pattern : Pattern)
deriving DecidableEq, Repr

namespace FieldValue

def accepts : FieldValue → String → Bool
  | typed, _ => false
  | closedBy _ pattern, text => pattern.closes text

def ofChars? (chars : List Char) : Option FieldValue :=
  if chars = "true".toList || chars = "false".toList || (Binary64.ofChars? chars).isSome then
    some typed
  else (Pattern.ofChars? chars).map (closedBy (String.ofList chars))

end FieldValue

structure FieldPattern where
  name : String
  value : Option FieldValue
deriving DecidableEq, Repr

def FieldPattern.ofChars? (written : List Char) : Option FieldPattern :=
  let name := String.ofList (written.takeWhile (· ≠ '='))
  match written.dropWhile (· ≠ '=') with
  | _ :: rest =>
      (FieldValue.ofChars? (rest.takeWhile (· ≠ '='))).map fun value => ⟨name, some value⟩
  | [] => if written.isEmpty then none else some ⟨name, none⟩

structure Directive where
  target : Option String
  span : Option String
  field : Option FieldPattern
  threshold : Threshold
deriving DecidableEq, Repr

namespace Directive

def ofTarget (target : Option String) (threshold : Threshold) : Directive :=
  ⟨target, none, none, threshold⟩

def text (directive : Directive) : String :=
  match directive.target with
  | some target => s!"{target}={directive.threshold.name}"
  | none => directive.threshold.name

def threshold? (written : List Char) : Option Threshold :=
  if written.isEmpty then some (.upTo .trace) else Threshold.ofText? (String.ofList written)

def startsWell (c : Char) : Bool := Text.isAlphanumeric c || c = '-' || c = ':' || c = '_'

-- A character of the trimmed text, and the one at its place in the
-- whole text. The signs of a directive are found in the former, and
-- what stands between them is taken from the latter.
abbrev Spot := Char × Char

def cut (spots : List Spot) : List Char := spots.map Prod.snd

def cutText (spots : List Spot) : String := String.ofList (cut spots)

def splitAtSign (signs : List Char) (spots : List Spot) : List Spot × List Spot :=
  spots.span fun spot => !signs.contains spot.1

def afterBracket? (target span : Option String) (field : Option FieldPattern)
    (beyond : List Char) : List Spot → Option Directive
  | [] => some ⟨target, span, field, .upTo .trace⟩
  | ('=', _) :: rest =>
      (threshold? (cut rest ++ beyond)).map fun threshold => ⟨target, span, field, threshold⟩
  | _ => none

def bracketed? (target : Option String) (beyond : List Char) (spots : List Spot) :
    Option Directive :=
  match splitAtSign [']', '{'] spots with
  | (name, (']', _) :: after) => afterBracket? target (some (cutText name)) none beyond after
  | (name, ('{', _) :: inside) =>
      match splitAtSign ['}'] inside with
      | (written, _ :: (']', _) :: after) =>
          let span := if name.isEmpty then none else some (cutText name)
          (FieldPattern.ofChars? (cut written)).bind fun field =>
            afterBracket? target span (some field) beyond after
      | _ => none
  | _ => none

def ofChars? (written : List Char) : Option Directive :=
  let trimmed := Text.trim written
  let beyond := written.drop trimmed.length
  match trimmed.zip written with
  | [] => none
  | (first, place) :: rest =>
      if first = '[' then bracketed? none beyond rest
      else if !startsWell first then none
      else
        match splitAtSign ['=', '['] ((first, place) :: rest) with
        | (target, ('[', _) :: inside) => bracketed? (some (cutText target)) beyond inside
        | (target, _ :: after) =>
            (threshold? (cut after ++ beyond)).map (ofTarget (some (cutText target)))
        | (whole, []) =>
            let word := String.ofList (cut whole ++ beyond)
            match Threshold.ofText? word with
            | some threshold => some (ofTarget none threshold)
            | none => some (ofTarget (some word) (.upTo .trace))

def coversTarget (directive : Directive) (target : String) : Bool :=
  match directive.target with
  | some start => start.toList.isPrefixOf target.toList
  | none => true

def asksForSpan (directive : Directive) : Bool := directive.span.isSome || directive.field.isSome

def asksForValue (directive : Directive) : Bool :=
  directive.field.any fun field => field.value.isSome

def isFree (directive : Directive) : Bool := directive.span.isNone && !directive.asksForValue

def watches (directive : Directive) (span : LogSpan) : Bool :=
  directive.asksForSpan && directive.coversTarget span.target &&
    directive.span.all (· == span.name) &&
    directive.field.all fun field => (span.fields.lookup field.name).isSome

def holdsIn (directive : Directive) (span : LogSpan) : Bool :=
  directive.watches span && directive.field.all fun field =>
    field.value.all fun value => (span.fields.lookup field.name).any value.accepts

def sameScope (one other : Directive) : Bool :=
  one.target == other.target && one.span == other.span && one.field == other.field

def weight (directive : Directive) : Nat :=
  match directive.target with
  | some target => target.utf8ByteSize + 1
  | none => 0

def precedes (one other : Directive) : Bool :=
  if one.weight ≠ other.weight then other.weight < one.weight
  else match one.field, other.field with
    | some field, some second => second.name < field.name
    | some _, none => true
    | none, _ => false

end Directive

end PageFeedback
