import PageFeedback.Binary64.Decimal

set_option autoImplicit false

namespace PageFeedback

namespace Decimal

def positional (decimal : Decimal) : List Char :=
  let written := digits decimal.coefficient
  if 0 ≤ decimal.exponent then written ++ List.replicate decimal.exponent.toNat '0'
  else
    let places := (-decimal.exponent).toNat
    if places < written.length then
      written.take (written.length - places) ++ '.' :: written.drop (written.length - places)
    else '0' :: '.' :: (List.replicate (places - written.length) '0' ++ written)

def readExponent? (chars : List Char) : Option Int :=
  let (negative, written) := match chars with
    | '-' :: rest => (true, rest)
    | '+' :: rest => (false, rest)
    | rest => (false, rest)
  if written.isEmpty || !written.all Char.isDigit then none
  else
    let value : Int := Nat.ofDigitChars 10 written 0
    some (if negative then -value else value)

def ofChars? (chars : List Char) : Option Decimal :=
  let whole := chars.takeWhile Char.isDigit
  let afterWhole := chars.dropWhile Char.isDigit
  let (fraction, afterFraction) := match afterWhole with
    | '.' :: rest => (rest.takeWhile Char.isDigit, rest.dropWhile Char.isDigit)
    | rest => ([], rest)
  if whole.isEmpty && fraction.isEmpty then none
  else
    let coefficient := Nat.ofDigitChars 10 (whole ++ fraction) 0
    match afterFraction with
    | [] => some ⟨coefficient, -fraction.length⟩
    | mark :: rest =>
        if mark = 'e' || mark = 'E' then
          (readExponent? rest).map fun exponent => ⟨coefficient, exponent - fraction.length⟩
        else none

end Decimal

namespace Binary64

def ofChars? (chars : List Char) : Option Binary64 :=
  let (negative, written) := match chars with
    | '-' :: rest => (true, rest)
    | '+' :: rest => (false, rest)
    | rest => (false, rest)
  let word := String.ofList (written.map Char.toLower)
  if word = "nan" then some nan
  else if word = "inf" || word = "infinity" then some (infinity negative)
  else (Decimal.ofChars? written).map (Decimal.toBinary64 negative)

def signChars (negative : Bool) : List Char := if negative then ['-'] else []

def plain : Binary64 → List Char
  | nan => "NaN".toList
  | infinity negative => signChars negative ++ "inf".toList
  | finite negative size => signChars negative ++ (decimalOf size).positional
where
  decimalOf (size : Magnitude) : Decimal :=
    if size.significand = 0 then ⟨0, 0⟩ else size.shortest .up

end Binary64

end PageFeedback
