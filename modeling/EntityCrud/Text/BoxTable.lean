import EntityCrud.Text.Width
/-! Tables drawn with box characters. Every column is as wide as its widest line, cells are
aligned to the left with a blank on each side, and a cell with line breaks takes as many lines. -/
namespace EntityCrud.Text.BoxTable

abbrev Cell := List (List Char)

def cell (s : String) : Cell := s.toList.splitOn '\n'

/-- The characters of a horizontal line: its left end, its stroke, its crossings, its right end. -/
structure Rule where
  left : Char
  stroke : Char
  crossing : Char
  right : Char

def top : Rule := ⟨'┌', '─', '┬', '┐'⟩

def belowHeader : Rule := ⟨'╞', '═', '╪', '╡'⟩

def betweenRows : Rule := ⟨'├', '╌', '┼', '┤'⟩

def bottom : Rule := ⟨'└', '─', '┴', '┘'⟩

def Rule.draw (rule : Rule) (widths : List Nat) : List Char :=
  let strokes := widths.map fun w => List.replicate (w + 2) rule.stroke
  rule.left :: [rule.crossing].intercalate strokes ++ [rule.right]

def cellWidth (c : Cell) : Nat := (c.map width).foldl max 0

/-- The greatest width in each place of the rows. -/
def columnWidths (rows : List (List Cell)) : List Nat :=
  rows.foldl (fun widths row =>
    List.zipWithAll (fun w c => max (w.getD 0) ((c.map cellWidth).getD 0)) widths row) []

def padded (w : Nat) (line : List Char) : List Char :=
  ' ' :: line ++ List.replicate (w - width line) ' ' ++ [' ']

def drawLine (widths : List Nat) (row : List Cell) (i : Nat) : List Char :=
  let texts := List.zipWith (fun w lines => padded w (lines[i]?.getD [])) widths row
  '│' :: ['┆'].intercalate texts ++ ['│']

def drawRow (widths : List Nat) (row : List Cell) : List (List Char) :=
  (List.range ((row.map List.length).foldl max 1)).map (drawLine widths row)

/-- The rows with a line between each two neighbours. -/
def drawRows (widths : List Nat) : List (List Cell) → List (List Char)
  | [] => []
  | [row] => drawRow widths row
  | row :: next :: more =>
    drawRow widths row ++ betweenRows.draw widths :: drawRows widths (next :: more)

/-- The table without a line break at its end. -/
def render (header : List String) (rows : List (List String)) : String :=
  let header := header.map cell
  let rows := rows.map (List.map cell)
  let widths := columnWidths (header :: rows)
  String.ofList <| ['\n'].intercalate <|
    top.draw widths :: drawRow widths header ++ belowHeader.draw widths :: drawRows widths rows ++
      [bottom.draw widths]

end EntityCrud.Text.BoxTable
