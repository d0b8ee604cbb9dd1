import PageFeedback.Json.Number
import PageFeedback.Json.Text

set_option autoImplicit false

namespace PageFeedback.Json

mutual

def compact : Json → List Char
  | null => ['n', 'u', 'l', 'l']
  | bool true => ['t', 'r', 'u', 'e']
  | bool false => ['f', 'a', 'l', 's', 'e']
  | number value => value.chars
  | string text => stringChars text.toList
  | array items => '[' :: (compactItems items ++ [']'])
  | object members => '{' :: (compactMembers members ++ ['}'])

def compactItems : List Json → List Char
  | [] => []
  | [last] => compact last
  | item :: rest => compact item ++ ',' :: compactItems rest

def compactMembers : List (String × Json) → List Char
  | [] => []
  | [(name, last)] => stringChars name.toList ++ ':' :: compact last
  | (name, value) :: rest =>
      stringChars name.toList ++ ':' :: (compact value ++ ',' :: compactMembers rest)

end

def newLine (level : Nat) : List Char := '\n' :: List.replicate (2 * level) ' '

mutual

def pretty (level : Nat) : Json → List Char
  | null => ['n', 'u', 'l', 'l']
  | bool true => ['t', 'r', 'u', 'e']
  | bool false => ['f', 'a', 'l', 's', 'e']
  | number value => value.chars
  | string text => stringChars text.toList
  | array [] => ['[', ']']
  | array (first :: rest) =>
      '[' :: (newLine (level + 1) ++ pretty (level + 1) first ++ prettyItems level rest)
  | object [] => ['{', '}']
  | object ((name, first) :: rest) =>
      '{' :: (newLine (level + 1) ++ stringChars name.toList ++ ':' :: ' ' ::
        (pretty (level + 1) first ++ prettyMembers level rest))

def prettyItems (level : Nat) : List Json → List Char
  | [] => newLine level ++ [']']
  | item :: rest => ',' :: (newLine (level + 1) ++ pretty (level + 1) item ++ prettyItems level rest)

def prettyMembers (level : Nat) : List (String × Json) → List Char
  | [] => newLine level ++ ['}']
  | (name, value) :: rest =>
      ',' :: (newLine (level + 1) ++ stringChars name.toList ++ ':' :: ' ' ::
        (pretty (level + 1) value ++ prettyMembers level rest))

end

def compactText (value : Json) : String := String.ofList value.compact

def prettyText (value : Json) : String := String.ofList (value.pretty 0)

end PageFeedback.Json
