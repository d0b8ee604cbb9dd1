set_option autoImplicit false

namespace PageFeedback.Text

inductive Utf8Fault
  -- The `length` bytes at `index` begin no character.
  | invalid (length : Nat) (index : Nat)
  | incomplete (index : Nat)
deriving DecidableEq, Repr

def Utf8Fault.message : Utf8Fault → String
  | invalid length index => s!"invalid utf-8 sequence of {length} bytes from index {index}"
  | incomplete index => s!"incomplete utf-8 byte sequence from index {index}"

def isContinuation (byte : UInt8) : Bool := 0x80 ≤ byte && byte ≤ 0xBF

def payload (byte : UInt8) : Nat := byte.toNat % 64

def followsThree (first second : UInt8) : Bool :=
  if first = 0xE0 then 0xA0 ≤ second && second ≤ 0xBF
  else if first = 0xED then 0x80 ≤ second && second ≤ 0x9F
  else isContinuation second

def followsFour (first second : UInt8) : Bool :=
  if first = 0xF0 then 0x90 ≤ second && second ≤ 0xBF
  else if first = 0xF4 then 0x80 ≤ second && second ≤ 0x8F
  else isContinuation second

def decodeFrom (index : Nat) : List UInt8 → Except Utf8Fault (List Char)
  | [] => .ok []
  | a :: afterA =>
      if a < 0x80 then do
        let rest ← decodeFrom (index + 1) afterA
        return Char.ofNat a.toNat :: rest
      else if a < 0xC2 then .error (.invalid 1 index)
      else if a < 0xE0 then
        match afterA with
        | [] => .error (.incomplete index)
        | b :: afterB =>
            if !isContinuation b then .error (.invalid 1 index)
            else do
              let rest ← decodeFrom (index + 2) afterB
              return Char.ofNat (a.toNat % 32 * 64 + payload b) :: rest
      else if a < 0xF0 then
        match afterA with
        | [] => .error (.incomplete index)
        | b :: afterB =>
            if !followsThree a b then .error (.invalid 1 index)
            else match afterB with
            | [] => .error (.incomplete index)
            | c :: afterC =>
                if !isContinuation c then .error (.invalid 2 index)
                else do
                  let rest ← decodeFrom (index + 3) afterC
                  return Char.ofNat (a.toNat % 16 * 4096 + payload b * 64 + payload c) :: rest
      else if a < 0xF5 then
        match afterA with
        | [] => .error (.incomplete index)
        | b :: afterB =>
            if !followsFour a b then .error (.invalid 1 index)
            else match afterB with
            | [] => .error (.incomplete index)
            | c :: afterC =>
                if !isContinuation c then .error (.invalid 2 index)
                else match afterC with
                | [] => .error (.incomplete index)
                | d :: afterD =>
                    if !isContinuation d then .error (.invalid 3 index)
                    else do
                      let rest ← decodeFrom (index + 4) afterD
                      let high := a.toNat % 8 * 262144 + payload b * 4096
                      return Char.ofNat (high + payload c * 64 + payload d) :: rest
      else .error (.invalid 1 index)

def decode (bytes : List UInt8) : Except Utf8Fault (List Char) := decodeFrom 0 bytes

def encode (chars : List Char) : List UInt8 := chars.flatMap String.utf8EncodeChar

def byteLength (chars : List Char) : Nat := chars.foldl (fun total c => total + c.utf8Size) 0

end PageFeedback.Text
