import PageFeedback.Json.Fault
import PageFeedback.Json.Value

set_option autoImplicit false

namespace PageFeedback.Json

namespace Number

def significandLimit : Nat := 2 ^ 64

def takeDigits (significand : Nat) : List Char → Nat × Nat × List Char
  | [] => (significand, 0, [])
  | c :: rest =>
      let appended := significand * 10 + (c.toNat - '0'.toNat)
      if c.isDigit && appended < significandLimit then
        let (final, count, unread) := takeDigits appended rest
        (final, count + 1, unread)
      else (significand, 0, c :: rest)

def powerOfTen (power : Nat) : Binary64 := Decimal.toBinary64 false ⟨1, power⟩

def lower : Nat → Binary64 → Int → Binary64
  | 0, _, _ => Binary64.zero
  | fuel + 1, value, exponent =>
      if -308 ≤ exponent then value / powerOfTen (-exponent).toNat
      else if value.isZero then value
      else lower fuel (value / powerOfTen 308) (exponent + 308)

def scaled? (significand : Nat) (exponent : Int) : Option Magnitude :=
  let value := Binary64.ofNat significand
  let product :=
    if significand = 0 then Binary64.zero
    else if exponent < 0 then lower 4 value exponent
    else if exponent ≤ 308 then value * powerOfTen exponent.toNat
    else .infinity false
  match product with
  | .finite _ size => some size
  | _ => none

def real? (negative : Bool) (significand : Nat) (exponent : Int) (unread : List Char) :
    Except Fault (Number × List Char) :=
  match scaled? significand exponent with
  | some size => .ok (.real negative size, unread)
  | none => .error (.here .numberOutOfRange unread)

def exponentLimit : Nat := 2 ^ 31

def takeExponent (value : Nat) : List Char → Except (List Char) (Nat × List Char)
  | [] => .ok (value, [])
  | c :: rest =>
      if c.isDigit then
        let appended := value * 10 + (c.toNat - '0'.toNat)
        if appended < exponentLimit then takeExponent appended rest else .error rest
      else .ok (value, c :: rest)

def readExponent (negative : Bool) (significand : Nat) (start : Int) (unread : List Char) :
    Except Fault (Number × List Char) :=
  let (lowered, written) := match unread with
    | '+' :: rest => (false, rest)
    | '-' :: rest => (true, rest)
    | rest => (false, rest)
  match written with
  | [] => .error (.here .endInValue [])
  | c :: _ =>
      if !c.isDigit then .error (.next .invalidNumber written)
      else match takeExponent 0 written with
        | .ok (exponent, rest) =>
            real? negative significand (if lowered then start - exponent else start + exponent) rest
        | .error rest =>
            if significand = 0 || lowered then
              .ok (.real negative Magnitude.zero, rest.dropWhile Char.isDigit)
            else .error (.here .numberOutOfRange rest)

def readScaled (negative : Bool) (significand : Nat) (exponent : Int) (unread : List Char) :
    Except Fault (Number × List Char) :=
  match unread with
  | [] => real? negative significand exponent []
  | c :: rest =>
      if c = 'e' || c = 'E' then readExponent negative significand exponent rest
      else real? negative significand exponent unread

def readFraction (negative : Bool) (significand : Nat) (exponent : Int) (unread : List Char) :
    Except Fault (Number × List Char) :=
  let (final, count, rest) := takeDigits significand unread
  let afterDigits := rest.dropWhile Char.isDigit
  if count = 0 && afterDigits.length = unread.length then
    match unread with
    | [] => .error (.here .endInValue [])
    | _ => .error (.next .invalidNumber unread)
  else readScaled negative final (exponent - count) afterDigits

def whole (negative : Bool) (significand : Nat) : Number :=
  if fits : !negative ∧ significand < 2 ^ 64 then
    .integer ⟨significand, by omega, by omega⟩
  else if fits : negative ∧ 0 < significand ∧ significand ≤ 2 ^ 63 then
    .integer ⟨-(significand : Int), by omega, by omega⟩
  else .real negative ((scaled? significand 0).getD Magnitude.zero)

def readAfterWhole (negative : Bool) (significand : Nat) (unread : List Char) :
    Except Fault (Number × List Char) :=
  let dropped := unread.takeWhile Char.isDigit
  let rest := unread.dropWhile Char.isDigit
  match rest with
  | '.' :: fraction => readFraction negative significand dropped.length fraction
  | _ =>
      if dropped.isEmpty then
        match rest with
        | [] => .ok (whole negative significand, rest)
        | c :: after =>
            if c = 'e' || c = 'E' then readExponent negative significand 0 after
            else .ok (whole negative significand, rest)
      else readScaled negative significand dropped.length rest

def readUnsigned (negative : Bool) : List Char → Except Fault (Number × List Char)
  | [] => .error (.here .endInValue [])
  | c :: rest =>
      if c = '0' then
        match rest with
        | [] => readAfterWhole negative 0 []
        | next :: _ =>
            if next.isDigit then .error (.next .invalidNumber rest)
            else readAfterWhole negative 0 rest
      else if c.isDigit then
        let (significand, _, unread) := takeDigits (c.toNat - '0'.toNat) rest
        readAfterWhole negative significand unread
      else .error (.next .invalidNumber (c :: rest))

def read : Reader Number
  | '-' :: rest => readUnsigned true rest
  | chars => readUnsigned false chars

def skip (chars : List Char) : Except Fault (List Char) :=
  let digitsFrom := match chars with
    | '-' :: rest => rest
    | rest => rest
  match digitsFrom with
  | [] => .error (.here .invalidNumber [])
  | '0' :: rest =>
      match rest with
      | [] => .ok []
      | next :: _ => if next.isDigit then .error (.next .invalidNumber rest) else afterWhole rest
  | c :: rest =>
      if c.isDigit then afterWhole (rest.dropWhile Char.isDigit)
      else .error (.next .invalidNumber digitsFrom)
where
  exponent (chars : List Char) : Except Fault (List Char) :=
    let written := match chars with
      | '+' :: rest => rest
      | '-' :: rest => rest
      | rest => rest
    match written with
    | [] => .error (.here .invalidNumber [])
    | c :: rest =>
        if c.isDigit then .ok (rest.dropWhile Char.isDigit)
        else .error (.next .invalidNumber written)
  afterDigits : List Char → Except Fault (List Char)
    | [] => .ok []
    | c :: rest => if c = 'e' || c = 'E' then exponent rest else .ok (c :: rest)
  afterWhole : List Char → Except Fault (List Char)
    | '.' :: rest =>
        let after := rest.dropWhile Char.isDigit
        if after.length = rest.length then .error (.next .invalidNumber rest)
        else afterDigits after
    | rest => afterDigits rest

def sizeChars (size : Magnitude) : List Char :=
  let shortest := size.shortest .even
  let written := digits shortest.coefficient
  let point : Int := written.length + shortest.exponent
  if 0 ≤ shortest.exponent && point ≤ 16 then
    written ++ List.replicate shortest.exponent.toNat '0' ++ ['.', '0']
  else if 0 < point && point ≤ 16 then
    written.take point.toNat ++ '.' :: written.drop point.toNat
  else if -5 < point && point ≤ 0 then
    '0' :: '.' :: (List.replicate (-point).toNat '0' ++ written)
  else
    let fraction := match written with
      | first :: [] => [first]
      | first :: more => first :: '.' :: more
      | [] => []
    let power := point - 1
    fraction ++ 'e' :: (if power < 0 then '-' else '+') :: digits power.natAbs

def chars : Number → List Char
  | integer n =>
      if n.value < 0 then '-' :: digits n.value.natAbs else digits n.value.natAbs
  | real negative size =>
      (if negative then ['-'] else []) ++
        if size.significand = 0 then ['0', '.', '0'] else sizeChars size

end Number

end PageFeedback.Json
