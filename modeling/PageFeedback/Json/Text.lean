import PageFeedback.Json.Fault
import PageFeedback.Text.Hexadecimal

set_option autoImplicit false

namespace PageFeedback.Json

def hexWord? (a b c d : Char) : Option Nat := do
  return (← Text.hexValue? a) * 4096 + (← Text.hexValue? b) * 256 + (← Text.hexValue? c) * 16 +
    (← Text.hexValue? d)

-- Four bytes are taken for an escape before they are looked at.
def hexFault (unread : List Char) : Fault :=
  if Text.byteLength (unread.take 4) < 4 then .here .endInString []
  else ⟨.invalidEscape, .before unread 4⟩

def plainEscape? (c : Char) : Option Char :=
  if c = '"' then some '"'
  else if c = '\\' then some '\\'
  else if c = '/' then some '/'
  else if c = 'b' then some '\x08'
  else if c = 'f' then some '\x0c'
  else if c = 'n' then some '\n'
  else if c = 'r' then some '\r'
  else if c = 't' then some '\t'
  else none

def isLeadingSurrogate (code : Nat) : Bool := 0xD800 ≤ code && code ≤ 0xDBFF
def isTrailingSurrogate (code : Nat) : Bool := 0xDC00 ≤ code && code ≤ 0xDFFF

def pairChar (leading trailing : Nat) : Char :=
  Char.ofNat ((leading - 0xD800) * 1024 + (trailing - 0xDC00) + 0x10000)

def prepend (c : Char) (result : Except Fault (List Char × List Char)) :
    Except Fault (List Char × List Char) := do
  let (text, unread) ← result
  return (c :: text, unread)

def readString : List Char → Except Fault (List Char × List Char)
  | [] => .error (.here .endInString [])
  | c :: rest =>
      if c = '"' then .ok ([], rest)
      else if c = '\\' then
        match rest with
        | [] => .error (.here .endInString [])
        | letter :: afterLetter =>
            match plainEscape? letter with
            | some plain => prepend plain (readString afterLetter)
            | none =>
                if letter = 'u' then
                  match afterLetter with
                  | h1 :: h2 :: h3 :: h4 :: afterWord =>
                      match hexWord? h1 h2 h3 h4 with
                      | none => .error (hexFault afterLetter)
                      | some code =>
                          if isTrailingSurrogate code then .error (.here .loneSurrogate afterWord)
                          else if isLeadingSurrogate code then
                            match afterWord with
                            | '\\' :: 'u' :: k1 :: k2 :: k3 :: k4 :: afterPair =>
                                match hexWord? k1 k2 k3 k4 with
                                | none => .error (hexFault (k1 :: k2 :: k3 :: k4 :: afterPair))
                                | some second =>
                                    if isTrailingSurrogate second then
                                      prepend (pairChar code second) (readString afterPair)
                                    else .error (.here .loneSurrogate afterPair)
                            | unpaired => .error (unpairedFault unpaired)
                          else prepend (Char.ofNat code) (readString afterWord)
                  | short => .error (hexFault short)
                else .error (.next .invalidEscape rest)
      else if c.toNat < 0x20 then .error (.next .controlCharacter (c :: rest))
      else prepend c (readString rest)
where
  unpairedFault : List Char → Fault
    | [] => .here .endInString []
    | '\\' :: [] => .here .endInString []
    | '\\' :: 'u' :: short => hexFault short
    | '\\' :: rest => .next .unfinishedSurrogate rest
    | other => .next .unfinishedSurrogate other

def skipString : List Char → Except Fault (List Char)
  | [] => .error (.here .endInString [])
  | c :: rest =>
      if c = '"' then .ok rest
      else if c = '\\' then
        match rest with
        | [] => .error (.here .endInString [])
        | letter :: afterLetter =>
            match plainEscape? letter with
            | some _ => skipString afterLetter
            | none =>
                if letter = 'u' then
                  match afterLetter with
                  | h1 :: h2 :: h3 :: h4 :: afterWord =>
                      match hexWord? h1 h2 h3 h4 with
                      | none => .error (hexFault afterLetter)
                      | some _ => skipString afterWord
                  | short => .error (hexFault short)
                else .error (.next .invalidEscape rest)
      else if c.toNat < 0x20 then .error (.here .controlCharacter (c :: rest))
      else skipString rest

def escapedChar (c : Char) : List Char :=
  if c = '"' then ['\\', '"']
  else if c = '\\' then ['\\', '\\']
  else if c = '\x08' then ['\\', 'b']
  else if c = '\x0c' then ['\\', 'f']
  else if c = '\n' then ['\\', 'n']
  else if c = '\r' then ['\\', 'r']
  else if c = '\t' then ['\\', 't']
  else if c.toNat < 0x20 then
    ['\\', 'u', '0', '0', (c.toNat / 16).digitChar, (c.toNat % 16).digitChar]
  else [c]

def stringChars (text : List Char) : List Char :=
  '"' :: (text.flatMap escapedChar ++ ['"'])

end PageFeedback.Json
