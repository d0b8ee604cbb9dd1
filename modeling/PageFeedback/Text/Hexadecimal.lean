set_option autoImplicit false

namespace PageFeedback.Text

def hexValue? (c : Char) : Option Nat :=
  if '0' ≤ c && c ≤ '9' then some (c.toNat - '0'.toNat)
  else if 'a' ≤ c && c ≤ 'f' then some (c.toNat - 'a'.toNat + 10)
  else if 'A' ≤ c && c ≤ 'F' then some (c.toNat - 'A'.toNat + 10)
  else none

def valueInBase? (base : Nat) (digits : List Char) : Option Nat :=
  digits.foldlM (fun value c => ((hexValue? c).filter (· < base)).map (value * base + ·)) 0

def hexChar? (digits : List Char) : Option Char := do
  let code ← valueInBase? 16 digits
  if code.isValidChar then return Char.ofNat code else none

end PageFeedback.Text
