import PageFeedback.Binary64.Text
import PageFeedback.Text.Choices
import PageFeedback.Text.Quoted
import PageFeedback.Toml.Value

set_option autoImplicit false

namespace PageFeedback.Toml

inductive Misfit
  | wrongType (found wanted : String)
  | wrongInteger (value : Int) (wanted : String)
  | unknownVariant (name : String) (names : List String)
  | integerOverflow
  | floatOverflow
  | notAChoice
  | noChoice
  | severalChoices
  | choiceContent (found : String)
  | choiceTableNotEmpty
  | choiceArrayNotEmpty
deriving DecidableEq, Repr

def Misfit.message : Misfit → String
  | wrongType found wanted => s!"invalid type: {found}, expected {wanted}"
  | wrongInteger value wanted => s!"invalid value: integer `{value}`, expected {wanted}"
  | unknownVariant name names => Text.unknownChoice name names
  | integerOverflow => "integer number overflowed"
  | floatOverflow => "floating-point number overflowed"
  | notAChoice => "wanted string or table"
  | noChoice => "wanted exactly 1 element, found 0 elements"
  | severalChoices => "wanted exactly 1 element, more than 1 element"
  | choiceContent found => s!"expected table, found {found}"
  | choiceTableNotEmpty => "expected empty table"
  | choiceArrayNotEmpty => "expected empty array"

inductive IntegerWidth
  | fits64
  | fits128Signed
  | fits128
  | tooWide
deriving DecidableEq, Repr

def widthOf (value : Int) : IntegerWidth :=
  if -(2 ^ 63) ≤ value ∧ value < 2 ^ 64 then .fits64
  else if -(2 ^ 127) ≤ value ∧ value < 2 ^ 127 then .fits128Signed
  else if 0 ≤ value ∧ value < 2 ^ 128 then .fits128
  else .tooWide

def shownFloat (value : Binary64) : String :=
  let plain := value.plain
  match value with
  | .finite .. => String.ofList (if plain.contains '.' then plain else plain ++ ['.', '0'])
  | _ => String.ofList plain

def mismatch (wanted : String) : Toml → Misfit
  | string text => .wrongType s!"string {Text.quoted text}" wanted
  | integer value =>
      match widthOf value with
      | .fits64 => .wrongType s!"integer `{value}`" wanted
      | .fits128Signed => .wrongType s!"integer `{value}` as i128" wanted
      | .fits128 => .wrongType s!"integer `{value}` as u128" wanted
      | .tooWide => .integerOverflow
  | illegibleInteger => .integerOverflow
  | float value => .wrongType s!"floating point `{shownFloat value}`" wanted
  | hugeFloat => .floatOverflow
  | boolean value => .wrongType s!"boolean `{value}`" wanted
  | datetime => .wrongType "map" wanted
  | array _ => .wrongType "sequence" wanted
  | table _ => .wrongType "map" wanted

def string? : Toml → Except Misfit String
  | string text => .ok text
  | other => .error (mismatch "a string" other)

def bool? : Toml → Except Misfit Bool
  | boolean value => .ok value
  | other => .error (mismatch "a boolean" other)

def binary64? : Toml → Except Misfit Binary64
  | float value => .ok value
  | integer value =>
      match widthOf value with
      | .fits64 => .ok (Binary64.ofRatio (decide (value < 0)) (value.natAbs * Binary64.unitsInOne) 1)
      | _ => .error (mismatch "f64" (integer value))
  | other => .error (mismatch "f64" other)

def uint64? : Toml → Except Misfit UInt64
  | integer value =>
      match widthOf value with
      | .fits64 =>
          if 0 ≤ value then .ok (UInt64.ofNat value.toNat)
          else .error (.wrongInteger value "u64")
      | _ => .error (mismatch "u64" (integer value))
  | other => .error (mismatch "u64" other)

def choiceContent? : Toml → Except Misfit Unit
  | table members => if members.isEmpty then .ok () else .error .choiceTableNotEmpty
  | array items => if items.isEmpty then .ok () else .error .choiceArrayNotEmpty
  | string _ => .error (.choiceContent "string")
  | integer _ => .error (.choiceContent "integer")
  | illegibleInteger => .error (.choiceContent "integer")
  | float _ => .error (.choiceContent "float")
  | hugeFloat => .error (.choiceContent "float")
  | boolean _ => .error (.choiceContent "boolean")
  | datetime => .error (.choiceContent "datetime")

def choice? {α : Type} (values : List (String × α)) : Toml → Except Misfit α
  | string name => named name
  | table [] => .error .noChoice
  | table [(name, content)] => do
      let value ← named name
      choiceContent? content
      return value
  | table _ => .error .severalChoices
  | _ => .error .notAChoice
where
  named (name : String) : Except Misfit α :=
    match values.lookup name with
    | some value => .ok value
    | none => .error (.unknownVariant name (values.map Prod.fst))

mutual

-- A value that is passed over must still hold numbers within bounds.
def passOver : Toml → Except Misfit Unit
  | integer value => if widthOf value = .tooWide then .error .integerOverflow else .ok ()
  | illegibleInteger => .error .integerOverflow
  | hugeFloat => .error .floatOverflow
  | array items => passOverItems items
  | table members => passOverMembers members
  | _ => .ok ()

def passOverItems : List Toml → Except Misfit Unit
  | [] => .ok ()
  | item :: rest => do
      passOver item
      passOverItems rest

def passOverMembers : List (String × Toml) → Except Misfit Unit
  | [] => .ok ()
  | (_, value) :: rest => do
      passOver value
      passOverMembers rest

end

structure Field (α : Type) where
  name : String
  read : α → Toml → Except Misfit α

def Field.of {α β : Type} (name : String) (value : Toml → Except Misfit β) (put : α → β → α) :
    Field α where
  name
  read record written := (value written).map (put record)

structure Record (α : Type) where
  name : String
  blank : α
  fields : List (Field α)

namespace Record

variable {α : Type}

def readMember (record : Record α) (value : α) (member : String × Toml) : Except Misfit α :=
  match record.fields.find? fun field => field.name == member.1 with
  | some field => field.read value member.2
  | none => (passOver member.2).map fun _ => value

def readMembers (record : Record α) (members : List (String × Toml)) : Except Misfit α :=
  members.foldlM record.readMember record.blank

def readItems (record : Record α) (items : List Toml) : Except Misfit α :=
  (record.fields.zip items).foldlM (fun value entry => entry.1.read value entry.2) record.blank

def read (record : Record α) : Toml → Except Misfit α
  | table members => record.readMembers members
  | array items => record.readItems items
  | datetime => .ok record.blank
  | other => .error (mismatch s!"struct {record.name}" other)

end Record

end PageFeedback.Toml
