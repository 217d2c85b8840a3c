/-
Tables of text. A column is as wide as the longest of its header and its cells, counted in
characters; every line but the separator ends at its last character that is no blank.
-/
import FieldRules.Text.Blank
import FieldRules.Text.Find

namespace FieldRules

/-- Headers and rows of cells. -/
structure Table where
  headers : List String
  rows : List (List String)

namespace Table

/-- The widths of the columns, with one more row of cells. -/
def widen : List Nat → List String → List Nat
  | w :: ws, cell :: cells => max w cell.length :: widen ws cells
  | ws, _ => ws

def widths (t : Table) : List Nat :=
  t.rows.foldl widen (t.headers.map String.length)

/-- A cell filled up with blanks. -/
def pad (width : Nat) (cell : String) : String :=
  cell ++ "".pushn ' ' (width - cell.length)

/-- The cells of a row in their columns; cells beyond the last column are as wide as they are. -/
def padAll : List Nat → List String → List String
  | w :: ws, cell :: cells => pad w cell :: padAll ws cells
  | _, cells => cells

def rowLine (ws : List Nat) (cells : List String) : String :=
  Text.join " │ " (padAll ws cells)

def separator (ws : List Nat) : String :=
  Text.join "─┼─" (ws.map fun w => "".pushn '─' w)

/-- A line without blanks at its end. -/
def stripEnd (s : String) : String :=
  String.ofList (Text.trimEnd s.toList)

/-- The lines of a table: the headers, the separator and the rows. -/
def lines (t : Table) : List String :=
  let ws := t.widths
  rowLine ws t.headers :: separator ws :: t.rows.map fun r => stripEnd (rowLine ws r)

end Table

end FieldRules
