import PageFeedback.Toml.Document
import PageFeedback.Toml.Scalar
import PageFeedback.Toml.Text

set_option autoImplicit false

namespace PageFeedback.Toml

def isBareChar (c : Char) : Bool := c.isAlphanum || c = '_' || c = '-'

def readName : Reader (List Char)
  | '"' :: rest => readBasic rest
  | '\x27' :: rest => readLiteral rest
  | chars =>
      let name := chars.takeWhile isBareChar
      if name.isEmpty then none else some (name, chars.dropWhile isBareChar)

def keyLimit : Nat := 80

def readKey : Nat → Reader Key
  | 0, _ => none
  | bound + 1, chars => do
      let (nameChars, afterName) ← readName chars
      let name := String.ofList nameChars
      match skipSpace afterName with
      | '.' :: rest =>
          let (key, unread) ← readKey bound (skipSpace rest)
          return (⟨name :: key.path, key.name⟩, unread)
      | unread => return (⟨[], name⟩, unread)

def skipVoid : Bool → List Char → Option (List Char)
  | _, [] => some []
  | inComment, c :: rest =>
      if isLineBreak c rest then skipVoid false rest
      else if inComment then if isPlain c then skipVoid true rest else none
      else if isSpace c then skipVoid false rest
      else if c = '#' then skipVoid true rest
      else some (c :: rest)

def readItems (item : Reader Toml) : Nat → Reader (List Toml)
  | 0, _ => none
  | bound + 1, chars => do
      match ← skipVoid false chars with
      | ']' :: rest => return ([], rest)
      | start =>
          let (first, afterItem) ← item start
          match ← skipVoid false afterItem with
          | ',' :: rest =>
              let (more, unread) ← readItems item bound rest
              return (first :: more, unread)
          | ']' :: rest => return ([first], rest)
          | _ => none

def readAssignment (skip : List Char → Option (List Char)) (value : Reader Toml) :
    Reader (Key × Toml) := fun chars => do
  let (key, afterKey) ← readKey keyLimit chars
  match ← skip afterKey with
  | '=' :: rest =>
      let (assigned, unread) ← value (← skip rest)
      return ((key, assigned), unread)
  | _ => none

def readAssignments (value : Reader Toml) : Nat → Reader (List (Key × Toml))
  | 0, _ => none
  | bound + 1, chars => do
      match ← skipVoid false chars with
      | '}' :: rest => return ([], rest)
      | start =>
          let (first, afterFirst) ← readAssignment (skipVoid false) value start
          match ← skipVoid false afterFirst with
          | ',' :: rest =>
              let (more, unread) ← readAssignments value bound rest
              return (first :: more, unread)
          | '}' :: rest => return ([first], rest)
          | _ => none

def readValue : Nat → Reader Toml
  | _, [] => none
  | depth, c :: rest =>
      if c = '"' then
        (readDoubleQuoted rest).map fun (text, unread) => (.string (String.ofList text), unread)
      else if c = '\x27' then
        (readSingleQuoted rest).map fun (text, unread) => (.string (String.ofList text), unread)
      else if c = '[' then
        match depth with
        | 0 => none
        | inner + 1 =>
            (readItems (readValue inner) (rest.length + 1) rest).map fun (items, unread) =>
              (.array items, unread)
      else if c = '{' then
        match depth with
        | 0 => none
        | inner + 1 => do
            let (assignments, unread) ← readAssignments (readValue inner) (rest.length + 1) rest
            return (← ofAssignments assignments, unread)
      else readScalar (c :: rest)

def depthLimit : Nat := 80

def endLine? (chars : List Char) : Option (List Char) :=
  let afterComment := match skipSpace chars with
    | '#' :: rest => rest.dropWhile isPlain
    | rest => rest
  match afterComment with
  | [] => some []
  | '\n' :: rest => some rest
  | '\r' :: '\n' :: rest => some rest
  | _ => none

def readStatement (chars : List Char) : Option (Option Statement × List Char) :=
  match skipSpace chars with
  | [] => some (none, [])
  | '[' :: '[' :: rest => do
      let (key, afterKey) ← readKey keyLimit (skipSpace rest)
      match afterKey with
      | ']' :: ']' :: unread => return (some (.element key), unread)
      | _ => none
  | '[' :: rest => do
      let (key, afterKey) ← readKey keyLimit (skipSpace rest)
      match afterKey with
      | ']' :: unread => return (some (.header key), unread)
      | _ => none
  | c :: rest =>
      if c = '#' || isLineBreak c rest then some (none, c :: rest)
      else do
        let ((key, value), unread) ← readAssignment (some ∘ skipSpace) (readValue depthLimit) (c :: rest)
        return (some (.assign key value), unread)

def readStatements : Nat → List Char → Option (List Statement)
  | 0, chars => if chars.isEmpty then some [] else none
  | bound + 1, chars =>
      if chars.isEmpty then some []
      else do
        let (statement, afterStatement) ← readStatement chars
        let rest ← endLine? afterStatement
        let statements ← readStatements bound rest
        return statement.toList ++ statements

def withoutMark : List Char → List Char
  | '\ufeff' :: rest => rest
  | chars => chars

def parse (text : String) : Option (List (String × Toml)) :=
  let chars := withoutMark text.toList
  (readStatements (chars.length + 1) chars).bind ofStatements

end PageFeedback.Toml
