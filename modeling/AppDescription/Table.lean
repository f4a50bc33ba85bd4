import AppDescription.Text.Basic

namespace AppDescription

/-- A table with a title, a header and rows of cells. -/
structure Table where
  title : Text
  header : List Text
  rows : List (List Text)
  deriving Repr, DecidableEq

namespace Table

/-- Puts words on lines of a width, as many on each as fit. A word that is too long has a line to
itself. -/
def fill (width : Nat) : Text → List Text → List Text
  | line, [] => [line]
  | line, word :: words =>
    if line.isEmpty then fill width word words
    else if line.length + 1 + word.length ≤ width then fill width (line ++ ' ' :: word) words
    else line :: fill width word words

def cellLines (width : Nat) (cell : Text) : List Text :=
  fill width [] (Text.words cell)

/-- The width each column needs for its longest cell. -/
def naturalWidths (table : Table) : List Nat :=
  (table.header :: table.rows).foldl (fun widths row =>
    (List.range row.length).map fun column =>
      max (widths.getD column 0) (row.getD column []).length) []

def totalWidth (widths : List Nat) : Nat :=
  widths.foldl (· + ·) 0

/-- Takes what does not fit from the widest column. -/
def fitWidths (available : Nat) (widths : List Nat) : List Nat :=
  let excess := totalWidth widths - available
  let widest := widths.foldl max 0
  match widths.idxOf? widest with
  | some column => widths.set column (widest - excess)
  | none => widths

/-- The characters of a line of a table: at its start, between cells and at its end. -/
structure Edge where
  left : Char
  middle : Char
  right : Char

/-- A line between rows, drawn with one character along every column. -/
def ruleLine (edge : Edge) (along : Char) (widths : List Nat) : Text :=
  edge.left :: Text.join [edge.middle] (widths.map fun width => List.replicate (width + 2) along) ++
    [edge.right]

/-- The lines of a row, as many as its longest cell has. -/
def rowLines (bar : Char) (widths : List Nat) (row : List Text) : List Text :=
  let cells := widths.zipWith cellLines row
  let height := (cells.map List.length).foldl max 0
  (List.range height).map fun line =>
    bar :: Text.join [bar] (widths.zipWith (fun width cell =>
      ' ' :: Text.padRight width (cell.getD line []) ++ [' ']) cells) ++ [bar]

def centered (width : Nat) (text : Text) : Text :=
  Text.padRight width (List.replicate ((width - text.length) / 2) ' ' ++ text)

/-- The lines of a table that is at most `width` columns wide. -/
def lines (width : Nat) (table : Table) : List Text :=
  let columns := table.header.length
  let widths := fitWidths (width - (3 * columns + 1)) table.naturalWidths
  let total := totalWidth widths + 3 * columns + 1
  centered total table.title ::
    ruleLine ⟨'┏', '┳', '┓'⟩ '━' widths ::
    rowLines '┃' widths table.header ++
    ruleLine ⟨'┡', '╇', '┩'⟩ '━' widths ::
    table.rows.flatMap (rowLines '│' widths) ++
    [ruleLine ⟨'└', '┴', '┘'⟩ '─' widths]

end Table

end AppDescription
