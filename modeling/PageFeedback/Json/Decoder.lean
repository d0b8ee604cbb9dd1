import PageFeedback.Json.Reader
import PageFeedback.Text.Choices
import PageFeedback.Text.Leading
import PageFeedback.Text.Quoted

set_option autoImplicit false

namespace PageFeedback.Json

def shapeFault (text : String) (unread : List Char) : Fault := .here (.shape text) unread

def splitPosition? (message : List Char) : Option (List Char × Nat × Nat) := do
  let (column, beforeColumn) := lastNumber message.reverse
  let afterLine ← Text.after? " column ".toList.reverse beforeColumn
  let (line, beforeLine) := lastNumber afterLine
  let text ← Text.after? " at line ".toList.reverse beforeLine
  return (text.reverse, ← number? line, ← number? column)
where
  lastNumber (reversed : List Char) : List Char × List Char :=
    ((reversed.takeWhile Char.isDigit).reverse, reversed.dropWhile Char.isDigit)
  number? (digits : List Char) : Option Nat :=
    let value := Nat.ofDigitChars 10 digits 0
    if digits.isEmpty || 2 ^ 64 ≤ value then none else some value

-- The fault of a value that a rule of its own refuses. A message that ends in a
-- position is placed there; lines count from 1, so line 0 is no position.
def refusal (message : String) (unread : List Char) : Fault :=
  match splitPosition? message.toList with
  | none => ⟨.shape message, .inRecord unread⟩
  | some (text, 0, _) => ⟨.shape (String.ofList text), .inRecord unread⟩
  | some (text, line, column) => ⟨.shape (String.ofList text), .given line column⟩

def mismatch (wanted : String) (chars : List Char) : Fault :=
  match chars with
  | [] => .next .endInValue []
  | c :: rest =>
      let named (found : String) (unread : List Char) : Fault :=
        shapeFault s!"invalid type: {found}, expected {wanted}" unread
      let orFault (result : Except Fault Fault) : Fault := match result with
        | .ok fault => fault
        | .error fault => fault
      if c = 'n' then orFault ((readWord ['u', 'l', 'l'] rest).map (named "null"))
      else if c = 't' then orFault ((readWord ['r', 'u', 'e'] rest).map (named "boolean `true`"))
      else if c = 'f' then
        orFault ((readWord ['a', 'l', 's', 'e'] rest).map (named "boolean `false`"))
      else if c = '-' || c.isDigit then
        orFault ((Number.read (c :: rest)).map fun (value, unread) => named (describe value) unread)
      else if c = '"' then
        orFault ((readString rest).map fun (text, unread) =>
          named s!"string {Text.quoted (String.ofList text)}" unread)
      else if c = '[' then named "sequence" (c :: rest)
      else if c = '{' then named "map" (c :: rest)
      else .next .expectedValue (c :: rest)
where
  describe (value : Number) : String :=
    let text := String.ofList value.chars
    match value with
    | .integer _ => s!"integer `{text}`"
    | .real .. => s!"floating point `{text}`"

def readStringAs (wanted : String) : Reader String := fun chars =>
  match skipSpace chars with
  | '"' :: rest => (readString rest).map fun (text, unread) => (String.ofList text, unread)
  | other => .error (mismatch wanted other)

def string? : Reader String := readStringAs "a string"

def bool? : Reader Bool := fun chars =>
  match skipSpace chars with
  | 't' :: rest => (readWord ['r', 'u', 'e'] rest).map (true, ·)
  | 'f' :: rest => (readWord ['a', 'l', 's', 'e'] rest).map (false, ·)
  | other => .error (mismatch "a boolean" other)

def natural? (wanted : String) (limit : Nat) : Reader Nat := fun chars =>
  match skipSpace chars with
  | [] => .error (.next .endInValue [])
  | c :: rest =>
      if c = '-' || c.isDigit then do
        let (value, unread) ← Number.read (c :: rest)
        match value with
        | .integer n =>
            if 0 ≤ n.value && n.value < limit then return (n.value.toNat, unread)
            else
              .error (shapeFault s!"invalid value: integer `{n.value}`, expected {wanted}" unread)
        | .real .. =>
            .error (shapeFault
              s!"invalid type: floating point `{String.ofList value.chars}`, expected {wanted}"
              unread)
      else .error (mismatch wanted (c :: rest))

def uint16? : Reader UInt16 := fun chars => do
  let (value, unread) ← natural? "u16" (2 ^ 16) chars
  return (UInt16.ofNat value, unread)

def uint64? : Reader UInt64 := fun chars => do
  let (value, unread) ← natural? "u64" (2 ^ 64) chars
  return (UInt64.ofNat value, unread)

def strings? : Reader (List (String × String)) := fun chars =>
  match skipSpace chars with
  | '{' :: rest => do
      let (members, unread) ← readMembers string? (rest.length + 1) true rest
      return (byName members, unread)
  | other => .error (mismatch "a map" other)

def choice? {α : Type} (values : List (String × α)) : Reader α := fun chars =>
  match skipSpace chars with
  | [] => .error (.next .endInValue [])
  | '"' :: rest => named ('"' :: rest)
  | '{' :: rest => do
      let (value, afterName) ← named rest
      let afterColon ← readColon afterName
      let afterNull ← nullAfter afterColon
      match skipSpace afterNull with
      | '}' :: unread => return (value, unread)
      | [] => .error (.here .endInObject [])
      | other => .error (.here .expectedValue other)
  | other => .error (.next .expectedValue other)
where
  named : Reader α := fun chars => do
    let (name, unread) ← readStringAs "variant identifier" chars
    match values.lookup name with
    | some value => return (value, unread)
    | none => .error (shapeFault (Text.unknownChoice name (values.map Prod.fst)) unread)
  nullAfter (chars : List Char) : Except Fault (List Char) :=
    match skipSpace chars with
    | 'n' :: rest => readWord ['u', 'l', 'l'] rest
    | other => .error (mismatch "unit" other)

structure Field (α : Type) where
  name : String
  required : Bool
  read : α → Reader α

def Field.of {α β : Type} (name : String) (required : Bool) (value : Reader β) (put : α → β → α) :
    Field α where
  name
  required
  read record chars := (value chars).map fun (read, unread) => (put record read, unread)

structure Record (α : Type) where
  name : String
  blank : α
  fields : List (Field α)

namespace Record

variable {α : Type}

def length (record : Record α) : String :=
  let count := record.fields.length
  let noun := if count = 1 then "element" else "elements"
  s!"struct {record.name} with {count} {noun}"

def members (record : Record α) :
    Nat → Bool → α → List String → List Char → Except Fault (α × List String × List Char)
  | 0, _, _, _, chars => .error (.next .endInObject chars)
  | bound + 1, first, value, seen, chars => do
      match ← nextName first chars with
      | none => return (value, seen, skipSpace chars)
      | some start =>
          let (nameChars, afterName) ← readString start
          let name := String.ofList nameChars
          match record.fields.find? fun field => field.name == name with
          | none =>
              let afterColon ← readColon afterName
              let rest ← skipValue afterColon
              members record bound false value seen rest
          | some field =>
              if seen.contains name then
                .error ⟨.shape s!"duplicate field `{name}`", .inRecord afterName⟩
              else
                let afterColon ← readColon afterName
                let (updated, rest) ← field.read value afterColon
                members record bound false updated (name :: seen) rest

def complete (record : Record α) (seen : List String) (unread : List Char) : Except Fault Unit :=
  match record.fields.find? fun field => field.required && !seen.contains field.name with
  | some field => .error ⟨.shape s!"missing field `{field.name}`", .inRecord unread⟩
  | none => .ok ()

def items (record : Record α) : List (Field α) → Nat → α → List Char → Except Fault (α × List Char)
  | [], _, value, chars => .ok (value, chars)
  | field :: fields, index, value, chars => do
      match ← nextItem (index == 0) chars with
      | none =>
          match (field :: fields).findIdx? fun later => later.required with
          | some further =>
              .error ⟨.shape s!"invalid length {index + further}, expected {record.length}",
                .inRecord chars⟩
          | none => return (value, chars)
      | some start =>
          let (updated, rest) ← field.read value start
          items record fields (index + 1) updated rest

-- A fault of a record as a whole is placed where the
-- record is left: past its end if that is next.
def leaveObject (fault : Fault) : Fault :=
  match fault.place with
  | .inRecord unread =>
      match skipSpace unread with
      | '}' :: rest => .here fault.problem rest
      | other => .here fault.problem other
  | _ => fault

def leaveList (fault : Fault) : Fault :=
  match fault.place with
  | .inRecord unread =>
      match skipSpace unread with
      | ']' :: rest => .here fault.problem rest
      | ',' :: rest => .here fault.problem (skipSpace rest)
      | other => .here fault.problem other
  | _ => fault

def listEnd (chars : List Char) : Except Fault (List Char) :=
  match skipSpace chars with
  | ']' :: rest => .ok rest
  | [] => .error (.next .endInList [])
  | ',' :: rest =>
      match skipSpace rest with
      | ']' :: after => .error (.next .trailingComma (']' :: after))
      | other => .error (.next .trailingCharacters other)
  | other => .error (.next .trailingCharacters other)

def read (record : Record α) : Reader α := fun chars =>
  match skipSpace chars with
  | [] => .error (.next .endInValue [])
  | '{' :: rest =>
      let result := do
        let (value, seen, unread) ← record.members (rest.length + 1) true record.blank [] rest
        record.complete seen unread
        return (value, unread.drop 1)
      result.mapError leaveObject
  | '[' :: rest =>
      match record.items record.fields 0 record.blank rest with
      | .error fault => .error (leaveList fault)
      | .ok (value, afterItems) => (listEnd afterItems).map (value, ·)
  | other => .error (mismatch s!"struct {record.name}" other)

def parse (record : Record α) (text : String) : Except Error α := readAll record.read text.toList

end Record

end PageFeedback.Json
