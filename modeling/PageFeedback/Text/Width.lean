import PageFeedback.Text.Width.Classes

set_option autoImplicit false

namespace PageFeedback.Text

inductive Following
  | nothing
  | lineFeed
  | skinTone
  | indicator
  | indicators
  | picture
  | joinedPicture
  | joinedKey
  | joinedIndicator
  | joinedFlags
  | joinedOddFlags
  | joinedTags (digits letters : Nat)
  | kiratRaiE
  | kiratRaiAi
  | alef
  | hebrewLamed (joined : Bool)
  | bugineseYa (joined : Bool)
  | bugineseIYa
  | tifinagh (joined : Bool)
  | tifinaghJoiner
  | lisuTone
  | orkhonI (joined : Bool)
  | khmerSubscript
deriving DecidableEq, Repr

namespace Following

def isLigature : Following → Bool
  | alef | hebrewLamed _ | bugineseYa _ | bugineseIYa | tifinagh _ | tifinaghJoiner | lisuTone
  | orkhonI _ | khmerSubscript => true
  | _ => false

def isLoose (following : Following) : Bool :=
  following.isLigature && following != alef

def join : Following → Following
  | hebrewLamed _ => hebrewLamed true
  | bugineseYa _ => bugineseYa true
  | tifinagh _ => tifinagh true
  | orkhonI _ => orkhonI true
  | other => other

def takesChosenPicture : Following → Bool
  | joinedPicture | joinedKey => true
  | _ => false

def takesJoiner : Following → Bool
  | picture | indicators | joinedFlags | joinedOddFlags | skinTone => true
  | _ => false

end Following

inductive Selector
  -- U+FE01: a quotation mark takes two columns.
  | wideQuote
  | asText
  | asPicture
deriving DecidableEq, Repr

structure Context where
  selector : Option Selector
  following : Following
deriving DecidableEq, Repr

namespace Context

def none : Context := ⟨Option.none, .nothing⟩

def of (following : Following) : Context := ⟨Option.none, following⟩

def select (context : Context) (selector : Selector) : Context :=
  let kept := context.following.isLigature ||
    (selector = .asPicture && context.following.takesChosenPicture)
  ⟨some selector, if kept then context.following else .nothing⟩

def unselect (context : Context) : Context :=
  ⟨Option.none, if context.following.isLigature then context.following else .nothing⟩

end Context

def ownColumns (c : Char) : Int × Context :=
  let code := c.toNat
  if code ≤ 0xA0 then (1, if c = '\n' then .of .lineFeed else .none)
  else if code = 0xFE01 then (0, ⟨some .wideQuote, .nothing⟩)
  else if code = 0xFE0E then (0, ⟨some .asText, .nothing⟩)
  else if code = 0xFE0F then (0, ⟨some .asPicture, .nothing⟩)
  else if isSkinTone c then (2, .of .skinTone)
  else if isIndicator c then (1, .of .indicator)
  else if isPicture c then (2, .of .picture)
  else if isAlef c then (1, .of .alef)
  else if isKhmerSubscript c then (1, .of .khmerSubscript)
  else if isTifinaghConsonant c then (1, .of (.tifinagh false))
  else if code = 0x5DC then (1, .of (.hebrewLamed false))
  else if code = 0x17D8 then (3, .none)
  else if code = 0x1A10 then (1, .of (.bugineseYa false))
  else if code = 0xA4FC || code = 0xA4FD then (1, .of .lisuTone)
  else if code = 0x10C03 then (1, .of (.orkhonI false))
  else if code = 0x16D67 then (1, .of .kiratRaiE)
  else if code = 0x16D68 then (1, .of .kiratRaiAi)
  else if isZeroWidth c then (0, .none)
  else if isWide c then (2, .none)
  else (1, .none)

-- Columns of a character before tags, a joiner and a picture. A region
-- has up to three digits and up to six letters before them, and the flag
-- in front of it from three letters or three digits on.
def columnsBeforeTags (digits letters : Nat) (c : Char) : Option (Int × Context) :=
  let code := c.toNat
  if 0xE0061 ≤ code && code ≤ 0xE007A && digits = 0 && letters < 6 then
    some (0, .of (.joinedTags 0 (letters + 1)))
  else if 0xE0030 ≤ code && code ≤ 0xE0039 && digits < 3 && letters < 5 then
    some (0, .of (.joinedTags (digits + 1) letters))
  else if code = 0x1F3F4 && (digits = 3 || (digits = 0 && 3 ≤ letters)) then
    some (0, .of .picture)
  else none

-- Columns that a character takes before what it is drawn with, and what both are to the
-- characters before them. The result is missing where the two are not drawn together.
def joinedColumns (following : Following) (c : Char) : Option (Int × Context) :=
  let code := c.toNat
  match following with
  | .alef =>
      if isLam c then some (0, .none)
      else if isTransparent c then some (0, .of .alef)
      else none
  | .hebrewLamed true => if code = 0x5D0 then some (0, .none) else none
  | .khmerSubscript => if code = 0x17D2 then some (-1, .none) else none
  | .bugineseYa true => if code = 0x1A17 then some (0, .of .bugineseIYa) else none
  | .bugineseIYa => if code = 0x1A15 then some (0, .none) else none
  | .tifinagh joined =>
      if code = 0x2D7F then some (1, .of .tifinaghJoiner)
      else if joined && isTifinaghConsonant c then some (0, .none)
      else none
  | .tifinaghJoiner => if isTifinaghConsonant c then some (-1, .none) else none
  | .lisuTone => if 0xA4F8 ≤ code && code ≤ 0xA4FB then some (0, .none) else none
  | .orkhonI true => if code = 0x10C32 then some (0, .none) else none
  | .indicator => if isIndicator c then some (1, .of .indicators) else none
  | .skinTone =>
      if isToned c then some (0, .of .picture)
      else if code = 0x200D then some (0, .of .joinedPicture)
      else none
  | .picture => if code = 0x200D then some (0, .of .joinedPicture) else none
  | .indicators =>
      if isIndicator c then some (1, .of .indicators)
      else if code = 0x200D then some (0, .of .joinedPicture)
      else none
  | .joinedPicture =>
      if code = 0x20E3 then some (0, .of .joinedKey)
      else if isIndicator c then some (1, .of .joinedIndicator)
      else if isSkinTone c then some (0, .of .skinTone)
      else if code = 0xE007F then some (0, .of (.joinedTags 0 0))
      else if isPicture c then some (0, .of .picture)
      else none
  | .joinedIndicator => if isIndicator c then some (-1, .of .joinedFlags) else none
  | .joinedOddFlags =>
      if isIndicator c then some (-1, .of .joinedFlags)
      else if code = 0x200D then some (0, .of .joinedPicture)
      else none
  | .joinedFlags =>
      if isIndicator c then some (3, .of .joinedOddFlags)
      else if code = 0x200D then some (0, .of .joinedPicture)
      else none
  | .joinedTags digits letters => columnsBeforeTags digits letters c
  | .kiratRaiE =>
      if code = 0x16D63 || code = 0x16D69 then some (0, .none)
      else if code = 0x16D67 then some (0, .of .kiratRaiAi)
      else if code = 0x16D68 then some (1, .of .kiratRaiE)
      else none
  | .kiratRaiAi => if code = 0x16D63 then some (0, .none) else none
  | _ => none

def columnsBefore (following : Following) (c : Char) : Int × Context :=
  if following.isLoose && c.toNat = 0x200D then (0, .of following.join)
  else if following.isLoose && isInvisibleMark c then (0, .of following)
  else (joinedColumns following c).getD (ownColumns c)

def isQuotationMark (c : Char) : Bool :=
  c.toNat = 0x2018 || c.toNat = 0x2019 || c.toNat = 0x201C || c.toNat = 0x201D

def nextColumns (c : Char) (context : Context) : Int × Context :=
  if context.selector = some .asPicture && isPicturable c then
    (if context.following.takesChosenPicture then 0 else 2, .of .picture)
  else
    let context := if context.selector = some .asPicture then context.unselect else context
    if c.toNat ≤ 0xA0 then
      if c = '\r' && context = .of .lineFeed then (0, .none) else ownColumns c
    else if context = .none then ownColumns c
    else if c.toNat = 0xFE0F then (0, context.select .asPicture)
    else if c.toNat = 0xFE0E then (0, context.select .asText)
    else if c.toNat = 0xFE01 then (0, context.select .wideQuote)
    else if context.selector = some .asText && isTextable c then (1, .none)
    else if context.selector = some .wideQuote && isQuotationMark c then (2, .none)
    else if context.selector.isSome then columnsBefore context.unselect.following c
    else columnsBefore context.following c

-- A text is read from its end, so that each character meets what follows it.
def columnsOf : List Char → Int × Context
  | [] => (0, .none)
  | c :: rest =>
      let (columns, context) := columnsOf rest
      let (added, before) := nextColumns c context
      (columns + added, before)

def displayWidth (chars : List Char) : Nat := (columnsOf chars).1.toNat

end PageFeedback.Text
