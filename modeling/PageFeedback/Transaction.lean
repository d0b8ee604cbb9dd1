import PageFeedback.Json.Decoder
import PageFeedback.Json.Printer

set_option autoImplicit false

namespace PageFeedback

structure Headers where
  entries : List (String × String)
  ascending : Ascending entries
deriving DecidableEq

namespace Headers

def empty : Headers := ⟨[], List.Pairwise.nil⟩

def insert (headers : Headers) (name value : String) : Headers :=
  ⟨insertMember name value headers.entries, insert_member_ascending name value _ headers.ascending⟩

def ofList (entries : List (String × String)) : Headers :=
  entries.foldl (fun headers entry => headers.insert entry.1 entry.2) empty

def sameName (a b : String) : Bool := a.toList.map Char.toLower == b.toList.map Char.toLower

def get? (headers : Headers) (name : String) : Option String :=
  (headers.entries.find? fun entry => sameName entry.1 name).map Prod.snd

end Headers

structure Transaction where
  status : UInt16
  responseText : String
  headers : Headers
deriving DecidableEq

namespace Transaction

def unsent : Transaction := ⟨0, "", Headers.empty⟩

instance : Inhabited Transaction := ⟨unsent⟩

def hasHeader (transaction : Transaction) (name : String) : Bool :=
  match transaction.headers.get? name with
  | some value => value ≠ ""
  | none => false

def toJson (transaction : Transaction) : Json :=
  .object [("status", .number (.integer (.ofUInt16 transaction.status))),
    ("responseText", .string transaction.responseText),
    ("headers", .object (transaction.headers.entries.map fun (name, value) =>
      (name, .string value)))]

def record : Json.Record Transaction where
  name := "XhrSnapshot"
  blank := unsent
  fields := [
    .of "status" false Json.uint16? fun transaction status => { transaction with status },
    .of "responseText" false Json.string? fun transaction responseText => { transaction with responseText },
    .of "headers" false Json.strings? fun transaction entries =>
      { transaction with headers := Headers.ofList entries }]

end Transaction

structure EventDetail where
  transaction : Transaction
  shouldSwap : Bool
deriving DecidableEq

namespace EventDetail

def ofTransaction (transaction : Transaction) : EventDetail := ⟨transaction, true⟩

def describe (detail : EventDetail) : String :=
  s!"EventDetail \x7b status: {detail.transaction.status}, should_swap: {detail.shouldSwap} \x7d"

end EventDetail

end PageFeedback
