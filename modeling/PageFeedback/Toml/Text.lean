import PageFeedback.Text.Hexadecimal

set_option autoImplicit false

namespace PageFeedback.Toml

abbrev Reader (α : Type) := List Char → Option (α × List Char)

def isSpace (c : Char) : Bool := c = ' ' || c = '\t'

def skipSpace (chars : List Char) : List Char := chars.dropWhile isSpace

def isPlain (c : Char) : Bool := c = '\t' || (0x20 ≤ c.toNat && c.toNat ≠ 0x7F)

def plainEscape? (c : Char) : Option Char :=
  if c = 'b' then some '\x08'
  else if c = 't' then some '\t'
  else if c = 'n' then some '\n'
  else if c = 'f' then some '\x0c'
  else if c = 'r' then some '\r'
  else if c = 'e' then some '\x1b'
  else if c = '"' then some '"'
  else if c = '\\' then some '\\'
  else none

def prepend? (c : Option Char) (result : Option (List Char × List Char)) :
    Option (List Char × List Char) := do
  let first ← c
  let (text, unread) ← result
  return (first :: text, unread)

def readBasic : Reader (List Char)
  | [] => none
  | c :: rest =>
      if c = '"' then some ([], rest)
      else if c = '\\' then
        match rest with
        | [] => none
        | letter :: after =>
            if letter = 'x' then
              match after with
              | h1 :: h2 :: next => prepend? (Text.hexChar? [h1, h2]) (readBasic next)
              | _ => none
            else if letter = 'u' then
              match after with
              | h1 :: h2 :: h3 :: h4 :: next =>
                  prepend? (Text.hexChar? [h1, h2, h3, h4]) (readBasic next)
              | _ => none
            else if letter = 'U' then
              match after with
              | h1 :: h2 :: h3 :: h4 :: h5 :: h6 :: h7 :: h8 :: next =>
                  prepend? (Text.hexChar? [h1, h2, h3, h4, h5, h6, h7, h8]) (readBasic next)
              | _ => none
            else prepend? (plainEscape? letter) (readBasic after)
      else if isPlain c then prepend? (some c) (readBasic rest)
      else none

def readLiteral : Reader (List Char)
  | [] => none
  | c :: rest =>
      if c = '\x27' then some ([], rest)
      else if isPlain c then prepend? (some c) (readLiteral rest)
      else none

def isLineBreak (c : Char) (rest : List Char) : Bool :=
  c = '\n' || (c = '\r' && rest.head? == some '\n')

def endsLine (chars : List Char) : Bool :=
  match skipSpace chars with
  | [] => false
  | c :: rest => isLineBreak c rest

-- What stands after three closing quotes: up to two more quotes still belong to the text.
def closing (quote : Char) : List Char → List Char × List Char
  | a :: b :: rest =>
      if a = quote then if b = quote then ([quote, quote], rest) else ([quote], b :: rest)
      else ([], a :: b :: rest)
  | [a] => if a = quote then ([quote], []) else ([], [a])
  | [] => ([], [])

-- Reads a basic string on several lines. A backslash at the end of a
-- line takes all white space and line ends after it out of the text;
-- the first argument says that such are being passed over.
def readLongBasic : Bool → Reader (List Char)
  | _, [] => none
  | skipping, c :: rest =>
      if skipping && (isSpace c || isLineBreak c rest) then readLongBasic true rest
      else if c = '"' then
        match rest with
        | '"' :: '"' :: after => some (closing '"' after)
        | _ => prepend? (some '"') (readLongBasic false rest)
      else if c = '\\' then
        if endsLine rest then readLongBasic true rest
        else match rest with
        | [] => none
        | letter :: after =>
            if letter = 'x' then
              match after with
              | h1 :: h2 :: next => prepend? (Text.hexChar? [h1, h2]) (readLongBasic false next)
              | _ => none
            else if letter = 'u' then
              match after with
              | h1 :: h2 :: h3 :: h4 :: next =>
                  prepend? (Text.hexChar? [h1, h2, h3, h4]) (readLongBasic false next)
              | _ => none
            else if letter = 'U' then
              match after with
              | h1 :: h2 :: h3 :: h4 :: h5 :: h6 :: h7 :: h8 :: next =>
                  prepend? (Text.hexChar? [h1, h2, h3, h4, h5, h6, h7, h8]) (readLongBasic false next)
              | _ => none
            else prepend? (plainEscape? letter) (readLongBasic false after)
      else if isPlain c || isLineBreak c rest then prepend? (some c) (readLongBasic false rest)
      else none

def readLongLiteral : Reader (List Char)
  | [] => none
  | c :: rest =>
      if c = '\x27' then
        match rest with
        | '\x27' :: '\x27' :: after => some (closing '\x27' after)
        | _ => prepend? (some '\x27') (readLongLiteral rest)
      else if isPlain c || isLineBreak c rest then prepend? (some c) (readLongLiteral rest)
      else none

def trimFirstLine : List Char → List Char
  | '\n' :: rest => rest
  | '\r' :: '\n' :: rest => rest
  | chars => chars

def readDoubleQuoted : Reader (List Char)
  | '"' :: '"' :: rest => readLongBasic false (trimFirstLine rest)
  | rest => readBasic rest

def readSingleQuoted : Reader (List Char)
  | '\x27' :: '\x27' :: rest => readLongLiteral (trimFirstLine rest)
  | rest => readLiteral rest

end PageFeedback.Toml
