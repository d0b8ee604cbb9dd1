import Mathlib.Data.List.Forall2
import PageFeedback.Table

set_option autoImplicit false

namespace PageFeedback

namespace Text

theorem split_lines_first (text : List Char) : ∃ line more, splitLines text = line :: more := by
  cases text with
  | nil => exact ⟨[], [], rfl⟩
  | cons c rest =>
      rw [splitLines]
      split
      · exact ⟨_, _, rfl⟩
      · split <;> exact ⟨_, _, rfl⟩

theorem split_lines_join (text : List Char) : ['\n'].intercalate (splitLines text) = text := by
  induction text with
  | nil => rfl
  | cons c rest ih =>
      obtain ⟨line, more, lines⟩ := split_lines_first rest
      rw [lines] at ih
      rw [splitLines, lines]
      split
      next isBreak => rw [isBreak, List.intercalate_cons_cons, ih]; rfl
      next => cases more <;> simp [← ih]

theorem joined_and_ended (line : List Char) (lines : List (List Char)) :
    ['\n'].intercalate (line :: lines) ++ ['\n'] = (line :: lines).flatMap (· ++ ['\n']) := by
  induction lines generalizing line with
  | nil => simp
  | cons next lines ih =>
      rw [List.intercalate_cons_cons, List.append_assoc, ih]
      simp

theorem split_lines_unbroken (text : List Char) : ∀ line ∈ splitLines text, '\n' ∉ line := by
  induction text with
  | nil => simp [splitLines]
  | cons c rest ih =>
      obtain ⟨line, more, lines⟩ := split_lines_first rest
      rw [splitLines]
      split
      next => simpa using ih
      next other =>
        rw [lines] at ih ⊢
        obtain ⟨own, later⟩ := List.forall_mem_cons.mp ih
        exact List.forall_mem_cons.mpr ⟨by simp [Ne.symm other, own], later⟩

theorem split_lines_of_line {text : List Char} (unbroken : '\n' ∉ text) : splitLines text = [text] := by
  induction text with
  | nil => rfl
  | cons c rest ih =>
      rw [List.mem_cons, not_or] at unbroken
      rw [splitLines, if_neg (Ne.symm unbroken.1), ih unbroken.2]

theorem sequences_of_plain {text : List Char} (plain : ∀ c ∈ text, Shape.isIntroducer c = false) :
    sequencesOf text = [] := by
  induction text with
  | nil => rfl
  | cons c rest ih =>
      obtain ⟨own, later⟩ := List.forall_mem_cons.mp plain
      rw [sequencesOf, own, if_neg Bool.false_ne_true, ih later]

theorem carry_styles_infix (styles lines : List (List Char)) :
    List.Forall₂ (· <:+: ·) lines (carryStyles styles lines) := by
  induction lines generalizing styles with
  | nil => exact .nil
  | cons line rest ih => exact .cons (List.infix_append _ _ _) (ih _)

end Text

-- The lines of a cell hold a text line by line, whatever styles stand around them.
def HoldsText (lines : List (List Char)) (text : String) : Prop :=
  ∃ parts, ['\n'].intercalate parts = text.toList ∧ (∀ part ∈ parts, '\n' ∉ part) ∧
    List.Forall₂ (· <:+: ·) parts lines

def IsPlain (text : String) : Prop := ∀ c ∈ text.toList, c ≠ '\n' ∧ Text.Shape.isIntroducer c = false

theorem IsPlain.append {text more : String} (plain : IsPlain text) (plainMore : IsPlain more) : IsPlain (text ++ more) := by
  intro c found
  rw [String.toList_append, List.mem_append] at found
  exact found.elim (plain c) (plainMore c)

namespace Cell

theorem holds_text (style : Style) (text : String) : HoldsText (styled style text).lines text :=
  ⟨Text.splitLines text.toList, Text.split_lines_join _, Text.split_lines_unbroken _, Text.carry_styles_infix _ _⟩

theorem lines_of_plain (style : Style) {text : String} (plain : IsPlain text) :
    (styled style text).lines = [text.toList] := by
  have unbroken : '\n' ∉ text.toList := fun found => (plain _ found).1 rfl
  have unstyled := Text.sequences_of_plain fun c found => (plain c found).2
  rw [styled, Text.split_lines_of_line unbroken]
  simp [Text.carryStyles, unstyled, Text.stylesAfter]

end Cell

theorem le_foldl_max (start : Nat) (widths : List Nat) :
    start ≤ widths.foldl max start ∧ ∀ width ∈ widths, width ≤ widths.foldl max start := by
  induction widths generalizing start with
  | nil => simp
  | cons width widths ih =>
      obtain ⟨least, each⟩ := ih (max start width)
      rw [List.foldl_cons]
      exact ⟨by omega, List.forall_mem_cons.mpr ⟨by omega, each⟩⟩

theorem line_width_le (cell : Cell) : ∀ line ∈ cell.lines, lineWidth line ≤ cell.width := fun _ found =>
  (le_foldl_max 0 _).2 _ (List.mem_map_of_mem found)

namespace Table

-- A line of a cell in its column, with as much space around it as the column is wide.
def IsField (width : Nat) (line field : List Char) : Prop :=
  ∃ before after, before + lineWidth line + after = width ∧
    field = ' ' :: (spaces before ++ line ++ spaces after ++ [' '])

theorem pad_field (alignment : Alignment) {width : Nat} {line : List Char} (fits : lineWidth line ≤ width) :
    IsField width line (pad alignment width line) := by
  unfold pad
  cases alignment with
  | left => exact ⟨0, width - lineWidth line, by omega, rfl⟩
  | right => exact ⟨width - lineWidth line, width - lineWidth line - (width - lineWidth line), by omega, rfl⟩
  | centre =>
      exact ⟨(width - lineWidth line + 1) / 2, width - lineWidth line - (width - lineWidth line + 1) / 2, by omega, rfl⟩

theorem blank_field (width : Nat) : IsField width [] (spaces (width + 2)) :=
  ⟨width, 0, rfl, by simp [spaces, List.replicate_succ, ← List.replicate_succ']⟩

theorem cell_line_field (index : Nat) (alignment : Alignment) {width : Nat} {cell : Cell} (fits : cell.width ≤ width) :
    IsField width (cell.lines.getD index []) (cellLine false index alignment width cell) := by
  rw [List.getD_eq_getElem?_getD, cellLine]
  cases found : cell.lines[index]? with
  | none => exact blank_field width
  | some line => exact pad_field alignment (Nat.le_trans (line_width_le cell line (List.mem_of_getElem? found)) fits)

-- Lines that show cells side by side, each in its column. A cell is given by its own lines.
structure IsRow (separator : Char) (widths : List Nat) (cells : List (List (List Char))) (block : List (List Char)) :
    Prop where
  columns : cells.length = widths.length
  height : block.length = (cells.map List.length).foldl max 0
  fields : ∀ index line, block[index]? = some line → ∃ fields, line = '│' :: ([separator].intercalate fields ++ ['│']) ∧
    List.Forall₂ (fun (place : Nat × List (List Char)) field => IsField place.1 (place.2.getD index []) field)
      (widths.zip cells) fields

def IsRule (left line cross right : Char) (widths : List Nat) (drawn : List Char) : Prop :=
  ∃ pieces, drawn = left :: ([cross].intercalate pieces ++ [right]) ∧
    List.Forall₂ (fun width piece => piece = List.replicate (width + 2) line) widths pieces

theorem rule_drawn (left line cross right : Char) (widths : List Nat) :
    IsRule left line cross right widths (rule left line cross right widths) := by
  refine ⟨_, rfl, ?_⟩
  rw [List.forall₂_map_right_iff, List.forall₂_same]
  exact fun _ _ => rfl

-- Lines that draw a table: its titles, and below them a row for each item, in order, and nothing else.
def Draws {α : Type} (separator : Char) (ruled : Bool) (titles : List String) (items : List α)
    (fills : α → List (List (List Char)) → Prop) (lines : List (List Char)) : Prop :=
  ∃ widths top header under between blocks bottom,
    lines = top :: header ++ under :: List.intercalate between blocks ++ [bottom] ∧
    IsRule '╭' '─' '┬' '╮' widths top ∧ IsRule '╞' '═' '╪' '╡' widths under ∧ IsRule '╰' '─' '┴' '╯' widths bottom ∧
    between.length = ruled.toNat ∧ (∀ line ∈ between, IsRule '├' '─' '┼' '┤' widths line) ∧
    IsRow separator widths (titles.map fun title => [title.toList]) header ∧
    List.Forall₂ (fun item block => ∃ cells, fills item cells ∧ IsRow separator widths cells block) items blocks

def Fits (widths : List Nat) (cells : List Cell) : Prop :=
  List.Forall₂ (fun width (cell : Cell) => cell.width ≤ width) widths cells

def widened (widths : List Nat) (row : List Cell) : List Nat :=
  List.zipWith (fun width (cell : Cell) => max width cell.width) widths row

theorem widened_length {widths : List Nat} {row : List Cell} (lengths : row.length = widths.length) :
    (widened widths row).length = widths.length := by
  rw [widened, List.length_zipWith, lengths, Nat.min_self]

theorem Fits.widened {widths : List Nat} {cells : List Cell} (fits : Fits widths cells) {row : List Cell}
    (lengths : row.length = widths.length) : Fits (widened widths row) cells := by
  induction fits generalizing row with
  | nil => exact .nil
  | cons own _ ih =>
      obtain ⟨cell, row, rfl⟩ := List.exists_cons_of_length_eq_add_one lengths
      exact .cons (Nat.le_trans own (Nat.le_max_left _ _)) (ih (Nat.succ.inj lengths))

theorem widened_fits {widths : List Nat} {row : List Cell} (lengths : row.length = widths.length) :
    Fits (widened widths row) row := by
  induction widths generalizing row with
  | nil =>
      rw [List.length_nil, List.length_eq_zero_iff] at lengths
      rw [lengths]
      exact .nil
  | cons width widths ih =>
      obtain ⟨cell, row, rfl⟩ := List.exists_cons_of_length_eq_add_one lengths
      exact .cons (Nat.le_max_right _ _) (ih (Nat.succ.inj lengths))

theorem rows_fit (widths : List Nat) (rows : List (List Cell)) (square : ∀ row ∈ rows, row.length = widths.length) :
    (∀ cells, Fits widths cells → Fits (rows.foldl widened widths) cells) ∧
      ∀ row ∈ rows, Fits (rows.foldl widened widths) row := by
  induction rows generalizing widths with
  | nil => exact ⟨fun _ fits => fits, by simp⟩
  | cons row rows ih =>
      obtain ⟨own, later⟩ := List.forall_mem_cons.mp square
      obtain ⟨kept, each⟩ := ih (widened widths row) fun row found => (later row found).trans (widened_length own).symm
      rw [List.foldl_cons]
      exact ⟨fun cells fits => kept cells (fits.widened own),
        List.forall_mem_cons.mpr ⟨kept row (widened_fits own), each⟩⟩

theorem fields_of_cells (columns : List (Column × Nat)) (index : Nat) {cells : List Cell}
    (fits : Fits (columns.map (·.2)) cells) :
    List.Forall₂ (fun (place : Nat × List (List Char)) field => IsField place.1 (place.2.getD index []) field)
      ((columns.map (·.2)).zip (cells.map Cell.lines))
      (List.zipWith (fun (column : Column × Nat) cell => cellLine false index column.1.alignment column.2 cell)
        columns cells) := by
  induction columns generalizing cells with
  | nil => exact .nil
  | cons column columns ih =>
      cases fits with
      | cons own later => exact .cons (cell_line_field index _ own) (ih later)

theorem row_of_cells (table : Table) {widths : List Nat} {cells : List Cell}
    (lengths : widths.length = table.columns.length) (fits : Fits widths cells) :
    IsRow table.separator widths (cells.map Cell.lines) (table.rowLines false widths cells) where
  columns := (List.length_map _).trans fits.length_eq.symm
  height := by simp [rowLines, Function.comp_def]
  fields index line found := by
    have placed : (table.columns.zip widths).map (·.2) = widths := List.map_snd_zip (Nat.le_of_eq lengths)
    rw [rowLines, List.getElem?_map] at found
    obtain ⟨place, inRange, rfl⟩ := Option.map_eq_some_iff.mp found
    obtain ⟨_, rfl⟩ := List.getElem?_eq_some_iff.mp inRange
    rw [List.getElem_range]
    refine ⟨_, rfl, ?_⟩
    have fields := fields_of_cells (table.columns.zip widths) index (placed.symm ▸ fits)
    rw [placed] at fields
    exact fields

theorem lines_draw {α : Type} (table : Table) {titles : List String} {items : List α} (row : α → List Cell)
    {fills : α → List (List (List Char)) → Prop} (rows : table.rows = items.map row)
    (titled : table.columns.map (·.header.lines) = titles.map fun title => [title.toList])
    (square : ∀ item ∈ items, (row item).length = table.columns.length)
    (filled : ∀ item ∈ items, fills item ((row item).map Cell.lines)) :
    Draws table.separator table.ruled titles items fills (table.lines false) := by
  have starts : Fits (table.columns.map (·.header.width)) (table.columns.map (·.header)) := by
    rw [Fits, List.forall₂_map_left_iff, List.forall₂_map_right_iff, List.forall₂_same]
    exact fun _ _ => Nat.le_refl _
  have wide : table.widths = (items.map row).foldl widened (table.columns.map (·.header.width)) := by rw [← rows]; rfl
  obtain ⟨kept, each⟩ := rows_fit (table.columns.map (·.header.width)) (items.map row)
    (List.forall_mem_map.mpr fun item found => (square item found).trans (List.length_map _).symm)
  rw [← wide] at kept each
  have headers := kept _ starts
  have lengths : table.widths.length = table.columns.length := headers.length_eq.trans (List.length_map _)
  have header := table.row_of_cells lengths headers
  rw [List.map_map] at header
  refine ⟨table.widths, _, _, _, if table.ruled then [rule '├' '─' '┼' '┤' table.widths] else [],
    items.map fun item => table.rowLines false table.widths (row item), _, ?_, rule_drawn _ _ _ _ _,
    rule_drawn _ _ _ _ _, rule_drawn _ _ _ _ _, ?_, ?_, titled ▸ header, ?_⟩
  · rw [lines, rows, List.map_map]
    rfl
  · cases table.ruled <;> rfl
  · cases table.ruled <;> simp [rule_drawn]
  · rw [List.forall₂_map_right_iff, List.forall₂_same]
    exact fun item found => ⟨_, filled item found, table.row_of_cells lengths (each _ (List.mem_map_of_mem found))⟩

example : (⟨[⟨Cell.plain "Line", .right⟩, ⟨Cell.plain "Swap", .centre⟩],
    [[Cell.plain "2", Cell.plain "no\nway"]], '│', true⟩ : Table).lines false =
  ["╭──────┬──────╮",
   "│ Line │ Swap │",
   "╞══════╪══════╡",
   "│    2 │  no  │",
   "│      │  way │",
   "╰──────┴──────╯"].map String.toList := by decide +kernel

theorem text_lines (table : Table) : table.text.toList ++ ['\n'] = (table.lines false).flatMap (· ++ ['\n']) := by
  rw [text, String.toList_ofList]
  exact Text.joined_and_ended _ _

end Table

end PageFeedback
