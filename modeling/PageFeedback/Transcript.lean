import PageFeedback.Event
import PageFeedback.Text.Blank
import PageFeedback.Text.Utf8
import PageFeedback.Transaction

set_option autoImplicit false

namespace PageFeedback

structure TranscriptEntry where
  line : Nat
  event : LifecycleEvent
  transaction : Transaction
deriving DecidableEq

namespace TranscriptEntry

def toJson (entry : TranscriptEntry) : Json :=
  .object [("event", .string entry.event.domName), ("xhr", entry.transaction.toJson)]

def readEvent : Json.Reader LifecycleEvent := fun chars => do
  let (name, rest) ← Json.string? chars
  match LifecycleEvent.ofName name with
  | .ok event => return (event, rest)
  | .error unknown => .error (Json.refusal unknown.message rest)

def record : Json.Record TranscriptEntry where
  name := "TranscriptEntry"
  blank := ⟨0, .beforeSend, Transaction.unsent⟩
  fields := [
    .of "event" true readEvent fun entry event => { entry with event },
    .of "xhr" false Transaction.record.read fun entry transaction => { entry with transaction }]

end TranscriptEntry

inductive LineFault
  | notUtf8 (fault : Text.Utf8Fault)
  | malformed (error : Json.Error)
deriving DecidableEq

def LineFault.reason : LineFault → String
  | notUtf8 fault => fault.message
  | malformed error => error.message

structure TranscriptError where
  line : Nat
  fault : LineFault
deriving DecidableEq

def TranscriptError.message (error : TranscriptError) : String :=
  s!"transcript line {error.line}: {error.fault.reason}"

namespace Transcript

def splitLines : List UInt8 → List (List UInt8)
  | [] => []
  | byte :: rest =>
      if byte = 10 then [byte] :: splitLines rest
      else match splitLines rest with
        | [] => [[byte]]
        | line :: lines => (byte :: line) :: lines

def readLine (number : Nat) (bytes : List UInt8) : Except LineFault (Option TranscriptEntry) :=
  match Text.decode bytes with
  | .error fault => .error (.notUtf8 fault)
  | .ok chars =>
      match Text.trim chars with
      | [] => .ok none
      | '#' :: _ => .ok none
      | written =>
          match Json.readAll TranscriptEntry.record.read written with
          | .error error => .error (.malformed error)
          | .ok entry => .ok (some { entry with line := number })

def readLines (number : Nat) : List (List UInt8) → Except TranscriptError (List TranscriptEntry)
  | [] => .ok []
  | line :: lines =>
      match readLine number line with
      | .error fault => .error ⟨number, fault⟩
      | .ok entry =>
          match readLines (number + 1) lines with
          | .error error => .error error
          | .ok entries => .ok (entry.toList ++ entries)

def parse (bytes : List UInt8) : Except TranscriptError (List TranscriptEntry) :=
  readLines 1 (splitLines bytes)

end Transcript

end PageFeedback
