import PageFeedback.Binary64.Decimal
import PageFeedback.Members

set_option autoImplicit false

namespace PageFeedback

namespace Json

structure Integer where
  value : Int
  least : -(2 ^ 63) ≤ value
  most : value < 2 ^ 64
deriving DecidableEq

inductive Number
  | integer (value : Integer)
  | real (negative : Bool) (size : Magnitude)
deriving DecidableEq

def Integer.ofUInt64 (value : UInt64) : Integer :=
  ⟨value.toNat, by omega, by have := value.toNat_lt; omega⟩

def Integer.ofUInt16 (value : UInt16) : Integer :=
  ⟨value.toNat, by omega, by have := value.toNat_lt; omega⟩

-- A count; one that does not fit becomes the largest number that does.
def Integer.ofNat (value : Nat) : Integer :=
  ⟨min value (2 ^ 64 - 1), by omega, by omega⟩

def Number.toBinary64 : Number → Binary64
  | integer n => Binary64.ofRatio (decide (n.value < 0)) (n.value.natAbs * Binary64.unitsInOne) 1
  | real negative size => .finite negative size

end Json

-- A JSON value. A reader leaves the members of an object in the order of their names.
inductive Json
  | null
  | bool (value : Bool)
  | number (value : Json.Number)
  | string (value : String)
  | array (items : List Json)
  | object (members : List (String × Json))

namespace Json

def member? (name : String) : Json → Option Json
  | object members => members.lookup name
  | _ => none

end Json

end PageFeedback
