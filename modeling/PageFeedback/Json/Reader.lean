import PageFeedback.Json.Number
import PageFeedback.Json.Text

set_option autoImplicit false

namespace PageFeedback.Json

def isSpace (c : Char) : Bool := c = ' ' || c = '\n' || c = '\t' || c = '\r'

def skipSpace (chars : List Char) : List Char := chars.dropWhile isSpace

def readWord : List Char → List Char → Except Fault (List Char)
  | [], unread => .ok unread
  | _ :: _, [] => .error (.here .endInValue [])
  | letter :: letters, c :: rest =>
      if c = letter then readWord letters rest else .error (.next .expectedWord (c :: rest))

def readColon (chars : List Char) : Except Fault (List Char) :=
  match skipSpace chars with
  | ':' :: rest => .ok rest
  | [] => .error (.next .endInObject [])
  | other => .error (.next .expectedColon other)

def nextItem (first : Bool) (chars : List Char) : Except Fault (Option (List Char)) :=
  match skipSpace chars with
  | [] => .error (.next .endInList [])
  | ']' :: _ => .ok none
  | c :: rest =>
      if first then .ok (some (c :: rest))
      else if c = ',' then
        match skipSpace rest with
        | [] => .error (.next .endInValue [])
        | ']' :: after => .error (.next .trailingComma (']' :: after))
        | item => .ok (some item)
      else .error (.next .expectedListCommaOrEnd (c :: rest))

def nextName (first : Bool) (chars : List Char) : Except Fault (Option (List Char)) :=
  match skipSpace chars with
  | [] => .error (.next .endInObject [])
  | '}' :: _ => .ok none
  | c :: rest =>
      if first then
        if c = '"' then .ok (some rest) else .error (.next .nameNotString (c :: rest))
      else if c = ',' then
        match skipSpace rest with
        | [] => .error (.next .endInValue [])
        | '"' :: name => .ok (some name)
        | '}' :: after => .error (.next .trailingComma ('}' :: after))
        | other => .error (.next .nameNotString other)
      else .error (.next .expectedObjectCommaOrEnd (c :: rest))

def readItems {α : Type} (item : Reader α) : Nat → Bool → Reader (List α)
  | 0, _, chars => .error (.next .endInList chars)
  | bound + 1, first, chars =>
      match nextItem first chars with
      | .error fault => .error fault
      | .ok none => .ok ([], (skipSpace chars).drop 1)
      | .ok (some start) =>
          match item start with
          | .error fault => .error fault
          | .ok (value, rest) =>
              match readItems item bound false rest with
              | .error fault => .error fault
              | .ok (values, unread) => .ok (value :: values, unread)

def readMembers {α : Type} (value : Reader α) : Nat → Bool → Reader (List (String × α))
  | 0, _, chars => .error (.next .endInObject chars)
  | bound + 1, first, chars =>
      match nextName first chars with
      | .error fault => .error fault
      | .ok none => .ok ([], (skipSpace chars).drop 1)
      | .ok (some start) =>
          match readString start with
          | .error fault => .error fault
          | .ok (name, afterName) =>
              match readColon afterName with
              | .error fault => .error fault
              | .ok afterColon =>
                  match value afterColon with
                  | .error fault => .error fault
                  | .ok (read, rest) =>
                      match readMembers value bound false rest with
                      | .error fault => .error fault
                      | .ok (members, unread) => .ok ((String.ofList name, read) :: members, unread)

def byName {α : Type} (members : List (String × α)) : List (String × α) :=
  members.foldl (fun sorted member => insertMember member.1 member.2 sorted) []

def readValue : Nat → Reader Json
  | depth, chars =>
      match skipSpace chars with
      | [] => .error (.next .endInValue [])
      | c :: rest =>
          if c = 'n' then do
            let unread ← readWord ['u', 'l', 'l'] rest
            return (.null, unread)
          else if c = 't' then do
            let unread ← readWord ['r', 'u', 'e'] rest
            return (.bool true, unread)
          else if c = 'f' then do
            let unread ← readWord ['a', 'l', 's', 'e'] rest
            return (.bool false, unread)
          else if c = '-' || c.isDigit then do
            let (value, unread) ← Number.read (c :: rest)
            return (.number value, unread)
          else if c = '"' then do
            let (text, unread) ← readString rest
            return (.string (String.ofList text), unread)
          else if c = '[' then
            match depth with
            | 0 => .error (.next .tooDeep (c :: rest))
            | inner + 1 => do
                let (items, unread) ← readItems (readValue inner) (rest.length + 1) true rest
                return (.array items, unread)
          else if c = '{' then
            match depth with
            | 0 => .error (.next .tooDeep (c :: rest))
            | inner + 1 => do
                let (members, unread) ← readMembers (readValue inner) (rest.length + 1) true rest
                return (.object (byName members), unread)
          else .error (.next .expectedValue (c :: rest))

def depthLimit : Nat := 127

def readEnd (unread : List Char) : Except Fault Unit :=
  match skipSpace unread with
  | [] => .ok ()
  | other => .error (.next .trailingCharacters other)

def readAll {α : Type} (reader : Reader α) (chars : List Char) : Except Error α :=
  match reader chars with
  | .error fault => .error (fault.inText chars)
  | .ok (value, unread) =>
      match readEnd unread with
      | .error fault => .error (fault.inText chars)
      | .ok () => .ok value

def parse (text : String) : Except Error Json := readAll (readValue depthLimit) text.toList

inductive Bracket
  | list
  | object
deriving DecidableEq

inductive Awaited
  | value
  | firstEntry
  | separator
deriving DecidableEq

def skipName (chars : List Char) : Except Fault (List Char) :=
  match skipSpace chars with
  | '"' :: rest => do
      let afterName ← skipString rest
      readColon afterName
  | [] => .error (.next .endInObject [])
  | other => .error (.next .nameNotString other)

def skipScalar : List Char → Except Fault (List Char)
  | [] => .error (.next .endInValue [])
  | c :: rest =>
      if c = 'n' then readWord ['u', 'l', 'l'] rest
      else if c = 't' then readWord ['r', 'u', 'e'] rest
      else if c = 'f' then readWord ['a', 'l', 's', 'e'] rest
      else if c = '-' || c.isDigit then Number.skip (c :: rest)
      else if c = '"' then skipString rest
      else .error (.next .expectedValue (c :: rest))

def skipOpen : Nat → Awaited → List Bracket → List Char → Except Fault (List Char)
  | 0, _, _, chars => .error (.next .endInValue chars)
  | bound + 1, awaited, brackets, chars =>
      match awaited, brackets with
      | .value, _ =>
          match skipSpace chars with
          | '[' :: rest => skipOpen bound .firstEntry (.list :: brackets) rest
          | '{' :: rest => skipOpen bound .firstEntry (.object :: brackets) rest
          | start =>
              match skipScalar start with
              | .error fault => .error fault
              | .ok rest => skipOpen bound .separator brackets rest
      | _, [] => .ok chars
      | .firstEntry, .list :: outer =>
          match skipSpace chars with
          | [] => .error (.next .endInList [])
          | ']' :: rest => skipOpen bound .separator outer rest
          | start => skipOpen bound .value brackets start
      | .firstEntry, .object :: outer =>
          match skipSpace chars with
          | [] => .error (.next .endInObject [])
          | '}' :: rest => skipOpen bound .separator outer rest
          | start =>
              match skipName start with
              | .error fault => .error fault
              | .ok rest => skipOpen bound .value brackets rest
      | .separator, .list :: outer =>
          match skipSpace chars with
          | [] => .error (.next .endInList [])
          | ',' :: rest => skipOpen bound .value brackets rest
          | ']' :: rest => skipOpen bound .separator outer rest
          | other => .error (.next .expectedListCommaOrEnd other)
      | .separator, .object :: outer =>
          match skipSpace chars with
          | [] => .error (.next .endInObject [])
          | ',' :: rest =>
              match skipName rest with
              | .error fault => .error fault
              | .ok after => skipOpen bound .value brackets after
          | '}' :: rest => skipOpen bound .separator outer rest
          | other => .error (.next .expectedObjectCommaOrEnd other)

def skipValue (chars : List Char) : Except Fault (List Char) :=
  skipOpen (2 * chars.length + 2) .value [] chars

end PageFeedback.Json
