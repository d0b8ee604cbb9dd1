import PageFeedback.Text.Styling
import PageFeedback.Text.Terminal
import PageFeedback.Text.Width

set_option autoImplicit false

namespace PageFeedback

inductive Colour
  | cyan
  | green
  | yellow
  | red
deriving DecidableEq, Repr

def Colour.code : Colour → List Char
  | cyan => ['1', '4']
  | green => ['1', '0']
  | yellow => ['1', '1']
  | red => ['9']

inductive Weight
  | normal
  | bold
  | dim
deriving DecidableEq, Repr

structure Style where
  colour : Option Colour
  weight : Weight
deriving DecidableEq, Repr

namespace Style

def plain : Style := ⟨none, .normal⟩

def wrap (style : Style) (text : List Char) : List Char :=
  let coloured := match style.colour with
    | some colour => Text.escapeSequence (['3', '8', ';', '5', ';'] ++ colour.code)
    | none => []
  match style.weight with
  | .bold => coloured ++ Text.escapeSequence ['1'] ++ text ++ Text.resetSequence
  | .dim => coloured ++ Text.escapeSequence ['2'] ++ text ++ Text.resetSequence
  | .normal =>
      match style.colour with
      | some _ => coloured ++ text ++ Text.escapeSequence ['3', '9']
      | none => text

end Style

structure Cell where
  lines : List (List Char)
  style : Style

namespace Cell

def styled (style : Style) (text : String) : Cell :=
  ⟨Text.carryStyles [] (Text.splitLines text.toList), style⟩

def plain (text : String) : Cell := styled Style.plain text

end Cell

def lineWidth (line : List Char) : Nat := Text.displayWidth (Text.shown line)

def Cell.width (cell : Cell) : Nat := (cell.lines.map lineWidth).foldl max 0

inductive Alignment
  | left
  | right
  | centre
deriving DecidableEq, Repr

structure Column where
  header : Cell
  alignment : Alignment

structure Table where
  columns : List Column
  rows : List (List Cell)
  separator : Char
  ruled : Bool

namespace Table

def spaces (count : Nat) : List Char := List.replicate count ' '

-- A line filled up to a width, with one space on both
-- sides. An odd space in the middle goes left.
def pad (alignment : Alignment) (width : Nat) (line : List Char) : List Char :=
  let room := width - lineWidth line
  let before := match alignment with
    | .left => 0
    | .right => room
    | .centre => (room + 1) / 2
  ' ' :: (spaces before ++ line ++ spaces (room - before) ++ [' '])

def widths (table : Table) : List Nat :=
  table.rows.foldl
    (fun widths row => List.zipWith (fun width (cell : Cell) => max width cell.width) widths row)
    (table.columns.map fun column => column.header.width)

def rule (left line cross right : Char) (widths : List Nat) : List Char :=
  let pieces := widths.map fun width => List.replicate (width + 2) line
  left :: (List.intercalate [cross] pieces ++ [right])

def cellLine (showStyles : Bool) (index : Nat) (alignment : Alignment) (width : Nat) (cell : Cell) :
    List Char :=
  match cell.lines[index]? with
  | some line =>
      let padded := pad alignment width line
      if showStyles then cell.style.wrap padded else padded
  | none => spaces (width + 2)

def rowLines (table : Table) (showStyles : Bool) (widths : List Nat) (cells : List Cell) :
    List (List Char) :=
  let height := (cells.map fun cell => cell.lines.length).foldl max 0
  (List.range height).map fun index =>
    let parts := List.zipWith (fun (column : Column × Nat) cell =>
      cellLine showStyles index column.1.alignment column.2 cell) (table.columns.zip widths) cells
    '│' :: (List.intercalate [table.separator] parts ++ ['│'])

def lines (table : Table) (showStyles : Bool) : List (List Char) :=
  let widths := table.widths
  let header := table.rowLines showStyles widths (table.columns.map (·.header))
  let between := if table.ruled then [rule '├' '─' '┼' '┤' widths] else []
  let body := List.intercalate between (table.rows.map (table.rowLines showStyles widths))
  rule '╭' '─' '┬' '╮' widths :: header ++ rule '╞' '═' '╪' '╡' widths :: body ++
    [rule '╰' '─' '┴' '╯' widths]

def text (table : Table) : String :=
  String.ofList (List.intercalate ['\n'] (table.lines false))

end Table

end PageFeedback
