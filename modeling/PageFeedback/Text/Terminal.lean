set_option autoImplicit false

namespace PageFeedback.Text

inductive Reading
  | text
  | escape
  | intermediate
  | control
  | command
  | string
deriving DecidableEq, Repr

namespace Reading

def afterEscape (c : Char) : Reading :=
  if c = '[' then control
  else if c = ']' then command
  else if c = 'P' || c = 'X' || c = '^' || c = '_' then string
  else if c.toNat < 0x30 then intermediate
  else if c.toNat < 0x7F then text
  else escape

-- Whether a character is shown, and what is read after it. Escape begins anew and two
-- controls (cancel, substitute) break off, wherever they stand; other controls are
-- carried out within a sequence and ignored in a command or a string.
def next (reading : Reading) (c : Char) : Bool × Reading :=
  let code := c.toNat
  if code = 0x1B then (false, escape)
  else if code = 0x18 || code = 0x1A then (true, text)
  else match reading with
    | text => (true, text)
    | escape => if code < 0x20 then (true, escape) else (false, afterEscape c)
    | intermediate =>
        if code < 0x20 then (true, intermediate)
        else (false, if 0x30 ≤ code && code < 0x7F then text else intermediate)
    | control =>
        if code < 0x20 then (true, control)
        else (false, if 0x40 ≤ code && code < 0x7F then text else control)
    | command => (false, if code = 0x07 then text else command)
    | string => (false, string)

end Reading

def shownFrom (reading : Reading) : List Char → List Char
  | [] => []
  | c :: rest =>
      let (shown, after) := reading.next c
      if shown then c :: shownFrom after rest else shownFrom after rest

def isUnfinished (reading : Reading) : List Char → Bool
  | [] => reading != .text
  | c :: rest => reading != .text && isUnfinished (reading.next c).2 rest

-- A sequence that is the whole text loses only its escape character.
def shown : List Char → List Char
  | [] => []
  | c :: rest =>
      let reading := (Reading.next .text c).2
      if isUnfinished reading rest then rest else shownFrom .text (c :: rest)

end PageFeedback.Text
