import PageFeedback.Powers

set_option autoImplicit false

namespace PageFeedback

-- The integer nearest to `num / den`; halfway cases go to the even neighbour.
def roundHalfEven (num den : Nat) : Nat :=
  let quotient := num / den
  let remainder := num % den
  if 2 * remainder < den then quotient
  else if den < 2 * remainder then quotient + 1
  else quotient + quotient % 2

theorem round_half_even_bounds (num den : Nat) :
    num / den ≤ roundHalfEven num den ∧ roundHalfEven num den ≤ num / den + 1 := by
  unfold roundHalfEven
  dsimp only
  split
  · omega
  · split <;> omega

-- A count of units of 2^-1074: a significand shifted left by an exponent.
structure Magnitude where
  significand : Nat
  exponent : Nat
  bounded : significand < 2 ^ 53
  normal : 2 ^ 52 ≤ significand ∨ exponent = 0
  finite : exponent ≤ 2045
deriving DecidableEq

namespace Magnitude

def units (size : Magnitude) : Nat := size.significand * 2 ^ size.exponent

def zero : Magnitude := ⟨0, 0, by decide, .inr rfl, by decide⟩

-- The exponent at which `num / den` has a significand of
-- 53 bits, or 0 for the smallest numbers.
def scale (num den : Nat) : Nat := (num / den).log2 - 52

theorem scaled_quotient_lt (num den : Nat) : num / (den * 2 ^ scale num den) < 2 ^ 53 := by
  rw [← Nat.div_div_eq_div_mul, Nat.div_lt_iff_lt_mul (Nat.two_pow_pos _), ← Nat.pow_add]
  refine Nat.lt_of_lt_of_le Nat.lt_log2_self (Nat.pow_le_pow_right (by decide) ?_)
  unfold scale
  omega

theorem scaled_quotient_normal (num den : Nat) :
    2 ^ 52 ≤ num / (den * 2 ^ scale num den) ∨ scale num den = 0 := by
  by_cases small : scale num den = 0
  · exact .inr small
  · left
    have large : 52 + scale num den = (num / den).log2 := by
      unfold scale at small ⊢
      omega
    rw [← Nat.div_div_eq_div_mul, Nat.le_div_iff_mul_le (Nat.two_pow_pos _), ← Nat.pow_add, large]
    apply Nat.log2_self_le
    intro none
    rw [none] at large
    simp at large

def nearest? (num den : Nat) : Option Magnitude :=
  let exponent := scale num den
  let significand := roundHalfEven num (den * 2 ^ exponent)
  if carry : significand = 2 ^ 53 then
    if room : exponent + 1 ≤ 2045 then
      some ⟨2 ^ 52, exponent + 1, by decide, .inl (Nat.le_refl _), room⟩
    else none
  else if room : exponent ≤ 2045 then
    some {
      significand
      exponent
      bounded := by
        have upper := scaled_quotient_lt num den
        have near := (round_half_even_bounds num (den * 2 ^ scale num den)).2
        exact Nat.lt_of_le_of_ne (Nat.le_trans near upper) carry
      normal := by
        have near := (round_half_even_bounds num (den * 2 ^ scale num den)).1
        exact (scaled_quotient_normal num den).imp (Nat.le_trans · near) id
      finite := room }
  else none

end Magnitude

inductive Binary64
  | nan
  | infinity (negative : Bool)
  | finite (negative : Bool) (size : Magnitude)
deriving DecidableEq

namespace Binary64

def unitsInOne : Nat := 2 ^ 1074

def ofRatio (negative : Bool) (num den : Nat) : Binary64 :=
  match Magnitude.nearest? num den with
  | some size => finite negative size
  | none => infinity negative

def ofNat (value : Nat) : Binary64 := ofRatio false (value * unitsInOne) 1

def zero : Binary64 := finite false Magnitude.zero

def one : Binary64 := ofNat 1

instance : Inhabited Binary64 := ⟨zero⟩

def signed (negative : Bool) (size : Magnitude) : Int :=
  if negative then -(size.units : Int) else size.units

def isNaN : Binary64 → Bool
  | nan => true
  | _ => false

def isZero : Binary64 → Bool
  | finite _ size => size.significand == 0
  | _ => false

def neg : Binary64 → Binary64
  | nan => nan
  | infinity negative => infinity !negative
  | finite negative size => finite (!negative) size

def add : Binary64 → Binary64 → Binary64
  | nan, _ => nan
  | _, nan => nan
  | infinity left, infinity right => if left = right then infinity left else nan
  | infinity left, finite .. => infinity left
  | finite .., infinity right => infinity right
  | finite left a, finite right b =>
      let sum := signed left a + signed right b
      if sum = 0 then finite (left && right) Magnitude.zero
      else ofRatio (decide (sum < 0)) sum.natAbs 1

def mul : Binary64 → Binary64 → Binary64
  | nan, _ => nan
  | _, nan => nan
  | infinity left, infinity right => infinity (left != right)
  | infinity left, finite right b =>
      if b.significand = 0 then nan else infinity (left != right)
  | finite left a, infinity right =>
      if a.significand = 0 then nan else infinity (left != right)
  | finite left a, finite right b => ofRatio (left != right) (a.units * b.units) unitsInOne

def div : Binary64 → Binary64 → Binary64
  | nan, _ => nan
  | _, nan => nan
  | infinity _, infinity _ => nan
  | infinity left, finite right _ => infinity (left != right)
  | finite left _, infinity right => finite (left != right) Magnitude.zero
  | finite left a, finite right b =>
      if b.significand = 0 then
        if a.significand = 0 then nan else infinity (left != right)
      else ofRatio (left != right) (a.units * unitsInOne) b.units

instance : Neg Binary64 := ⟨neg⟩
instance : Add Binary64 := ⟨add⟩
instance : Mul Binary64 := ⟨mul⟩
instance : Div Binary64 := ⟨div⟩

def isLess : Binary64 → Binary64 → Bool
  | nan, _ => false
  | _, nan => false
  | infinity left, infinity right => left && !right
  | infinity left, finite .. => left
  | finite .., infinity right => !right
  | finite left a, finite right b => decide (signed left a < signed right b)

def isAtMost : Binary64 → Binary64 → Bool
  | nan, _ => false
  | _, nan => false
  | infinity left, infinity right => left || !right
  | infinity left, finite .. => left
  | finite .., infinity right => !right
  | finite left a, finite right b => decide (signed left a ≤ signed right b)

instance : LT Binary64 := ⟨fun a b => a.isLess b = true⟩
instance : LE Binary64 := ⟨fun a b => a.isAtMost b = true⟩
instance (a b : Binary64) : Decidable (a < b) := inferInstanceAs (Decidable (a.isLess b = true))
instance (a b : Binary64) : Decidable (a ≤ b) := inferInstanceAs (Decidable (a.isAtMost b = true))

-- The larger number. A NaN is passed over, and the first of two equal numbers is kept.
def larger (a b : Binary64) : Binary64 :=
  if a.isNaN then b else if a < b then b else a

def smaller (a b : Binary64) : Binary64 :=
  if a.isNaN then b else if b < a then b else a

def clamp (a low high : Binary64) : Binary64 :=
  let raised := if a < low then low else a
  if high < raised then high else raised

def toBits : Binary64 → UInt64
  | nan => 0x7ff8000000000000
  | infinity negative => UInt64.ofNat (signBit negative + 2047 * 2 ^ 52)
  | finite negative size =>
      UInt64.ofNat (signBit negative + size.exponent * 2 ^ 52 + size.significand)
where
  signBit (negative : Bool) : Nat := if negative then 2 ^ 63 else 0

end Binary64

end PageFeedback
