import PageFeedback.Members
import PageFeedback.Toml.Value

set_option autoImplicit false

namespace PageFeedback.Toml

structure Key where
  path : List String
  name : String
deriving DecidableEq, Repr

inductive Statement
  | header (key : Key)
  | element (key : Key)
  | assign (key : Key) (value : Toml)

inductive Origin
  | header
  | implied
  | dotted
deriving DecidableEq, Repr

inductive Node
  | value (value : Toml)
  | table (origin : Origin) (entries : List (String × Node))
  | elements (before : List (List (String × Node))) (last : List (String × Node))

abbrev Entries := List (String × Node)

mutual

def Node.toValue : Node → Toml
  | .value value => value
  | .table _ entries => .table (entriesToMembers entries)
  | .elements before last => .array (tablesToItems before ++ [.table (entriesToMembers last)])

def entriesToMembers : List (String × Node) → List (String × Toml)
  | [] => []
  | (name, node) :: rest => insertMember name node.toValue (entriesToMembers rest)

def tablesToItems : List (List (String × Node)) → List Toml
  | [] => []
  | entries :: rest => .table (entriesToMembers entries) :: tablesToItems rest

end

def alter (name : String) (change : Option Node → Option Node) : Entries → Option Entries
  | [] => (change none).map fun node => [(name, node)]
  | (other, node) :: rest =>
      if other = name then (change (some node)).map fun changed => (other, changed) :: rest
      else (alter name change rest).map ((other, node) :: ·)

-- Acts on the table that the path of a header leads to. Tables on the way are
-- made where there are none, and of an array of tables the last one is meant.
def inHeader (act : Entries → Option Entries) : List String → Entries → Option Entries
  | [], entries => act entries
  | name :: path, entries =>
      alter name (fun
        | none => (inHeader act path []).map (.table .implied)
        | some (.table origin inner) => (inHeader act path inner).map (.table origin)
        | some (.elements before last) => (inHeader act path last).map (.elements before)
        | some (.value _) => none) entries

def openTable (name : String) : Entries → Option Entries :=
  alter name fun
    | none => some (.table .header [])
    | some (.table .implied inner) => some (.table .header inner)
    | some _ => none

def openElement (name : String) : Entries → Option Entries :=
  alter name fun
    | none => some (.elements [] [])
    | some (.elements before last) => some (.elements (before ++ [last]) [])
    | some _ => none

-- Assigns a value to a dotted key. The last table on the way is one that
-- dotted keys made; no table on the way was opened by a header.
def assignIn (name : String) (value : Toml) : List String → Entries → Option Entries
  | [], entries =>
      alter name (fun
        | none => some (.value value)
        | some _ => none) entries
  | step :: path, entries =>
      alter step (fun
        | none => (assignIn name value path []).map (.table .dotted)
        | some (.table .dotted inner) => (assignIn name value path inner).map (.table .dotted)
        | some (.table .implied inner) =>
            if path.isEmpty then none else (assignIn name value path inner).map (.table .implied)
        | some (.elements before last) =>
            if path.isEmpty then none else (assignIn name value path last).map (.elements before)
        | some (.table .header _) => none
        | some (.value _) => none) entries

structure Construction where
  entries : Entries
  current : List String

def Construction.start : Construction := ⟨[], []⟩

def Construction.apply (built : Construction) : Statement → Option Construction
  | .header key =>
      (inHeader (openTable key.name) key.path built.entries).map (⟨·, key.path ++ [key.name]⟩)
  | .element key =>
      (inHeader (openElement key.name) key.path built.entries).map (⟨·, key.path ++ [key.name]⟩)
  | .assign key value =>
      (inHeader (assignIn key.name value key.path) built.current built.entries).map
        (⟨·, built.current⟩)

def ofStatements (statements : List Statement) : Option (List (String × Toml)) :=
  (statements.foldlM Construction.apply Construction.start).map fun built =>
    entriesToMembers built.entries

def ofAssignments (assignments : List (Key × Toml)) : Option Toml :=
  (assignments.foldlM (fun entries assignment =>
    assignIn assignment.1.name assignment.2 assignment.1.path entries) []).map
      fun entries => .table (entriesToMembers entries)

end PageFeedback.Toml
