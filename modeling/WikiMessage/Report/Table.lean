import WikiMessage.Text.Width

/-!
# Tables

A header and rows of cells in a frame. A column is as wide as its widest line, a cell has a blank on
each side, and one blank stands between two cells. A cell may have several lines.
-/

namespace WikiMessage.Report

/-- The lines of a cell. -/
abbrev Cell := List (List Char)

def Cell.ofString (s : String) : Cell := s.toList.splitOnP (· = '\n')

def Cell.width (c : Cell) : Nat := (c.map Text.width).foldl max 0

abbrev Row := List Cell

/-- The widths of columns from those of the cells of each row. -/
def columnWidths (rows : List Row) : List Nat :=
  rows.foldl (fun widths row => List.zipWith max widths (row.map Cell.width))
    ((rows.headD []).map Cell.width)

def padded (width : Nat) (text : List Char) : List Char :=
  ' ' :: text ++ List.replicate (width - Text.width text) ' ' ++ [' ']

def rowHeight (row : Row) : Nat := (row.map List.length).foldl max 1

/-- One line of a row, with the given line of each cell. -/
def rowLine (widths : List Nat) (row : Row) (k : Nat) : List Char :=
  let cells := List.zipWith (fun width cell => padded width (cell[k]?.getD [])) widths row
  '│' :: [' '].intercalate cells ++ ['│']

def rowLines (widths : List Nat) (row : Row) : List (List Char) :=
  (List.range (rowHeight row)).map (rowLine widths row)

/-- The width between the sides of the frame. -/
def innerWidth : List Nat → Nat
  | [] => 0
  | [width] => width + 2
  | width :: widths => width + 3 + innerWidth widths

/-- A line of the frame. -/
def rule (left middle right : Char) (widths : List Nat) : List Char :=
  left :: List.replicate (innerWidth widths) middle ++ [right]

/-- A table without a line break at its end. -/
def table (header : List String) (rows : List (List String)) : String :=
  let head := header.map Cell.ofString
  let body := rows.map (·.map Cell.ofString)
  let widths := columnWidths (head :: body)
  let lines :=
    [rule '┌' '─' '┐' widths] ++ rowLines widths head ++ [rule '╞' '═' '╡' widths] ++
      body.flatMap (rowLines widths) ++ [rule '└' '─' '┘' widths]
  String.ofList (['\n'].intercalate lines)

end WikiMessage.Report
