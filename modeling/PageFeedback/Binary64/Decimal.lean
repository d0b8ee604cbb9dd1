import PageFeedback.Binary64.Basic

set_option autoImplicit false

namespace PageFeedback

structure Decimal where
  coefficient : Nat
  exponent : Int
deriving DecidableEq, Repr

namespace Decimal

def ratio (decimal : Decimal) : Nat × Nat :=
  if 0 ≤ decimal.exponent then (decimal.coefficient * 10 ^ decimal.exponent.toNat, 1)
  else (decimal.coefficient, 10 ^ (-decimal.exponent).toNat)

def magnitude? (decimal : Decimal) : Option Magnitude :=
  Magnitude.nearest? (decimal.ratio.1 * Binary64.unitsInOne) decimal.ratio.2

-- Beyond these bounds the answer is known without computing a huge power of ten.
def toBinary64 (negative : Bool) (decimal : Decimal) : Binary64 :=
  if decimal.coefficient = 0 then .finite negative Magnitude.zero
  else if 400 < decimal.exponent then .infinity negative
  else if decimal.exponent < -(400 + decimal.coefficient.log2 : Int) then
    .finite negative Magnitude.zero
  else
    match decimal.magnitude? with
    | some size => .finite negative size
    | none => .infinity negative

end Decimal

inductive Tie
  | even
  | up
deriving DecidableEq

def digits (value : Nat) : List Char := Nat.toDigits 10 value

namespace Magnitude

def leadingPower (size : Magnitude) : Int :=
  (digits (size.units * 10 ^ 324 / Binary64.unitsInOne)).length - 325

-- The neighbours of a size among the multiples of `10 ^ power`: the one
-- below, and how far the size lies above it as a fraction of the step.
def below (size : Magnitude) (power : Int) : Nat × Nat × Nat :=
  let num := if 0 ≤ power then size.units else size.units * 10 ^ (-power).toNat
  let den := if 0 ≤ power then Binary64.unitsInOne * 10 ^ power.toNat else Binary64.unitsInOne
  (num / den, num % den, den)

def onGrid? (size : Magnitude) (tie : Tie) (power : Int) : Option Decimal :=
  let (low, past, step) := size.below power
  let floor : Decimal := ⟨low, power⟩
  let ceiling : Decimal := ⟨low + 1, power⟩
  if floor.magnitude? = some size then
    if ceiling.magnitude? = some size then
      if 2 * past < step then some floor
      else if step < 2 * past then some ceiling
      else match tie with
        | .up => some ceiling
        | .even => some (if low % 2 = 0 then floor else ceiling)
    else some floor
  else if ceiling.magnitude? = some size then some ceiling
  else none

def expansion (size : Magnitude) : Decimal := ⟨size.units * 5 ^ 1074, -1074⟩

-- The shortest decimal that reads back. The first grid holds the power of ten
-- above the size, and grids of more than seventeen digits are never needed.
def shortest (tie : Tie) (size : Magnitude) : Decimal :=
  ((List.range 18).findSome? fun (more : Nat) =>
    size.onGrid? tie (size.leadingPower + 1 - more)).getD size.expansion

end Magnitude

end PageFeedback
