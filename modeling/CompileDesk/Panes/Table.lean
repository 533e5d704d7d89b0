import CompileDesk.Panes.Basic

/-! # The symbol table as text

Four columns, two spaces apart. A column is as wide as its widest cell. When the table is too wide for
the page, the widest column loses one character at a time, of equally wide ones the last, until the
table fits or all columns are at the least width. A cell that no longer fits ends in three dots.
-/

namespace CompileDesk.Table

def minWidth : Nat := 4

def gap : String := "  "

def gapsWidth : Nat := 6

/-- The four column widths. Each counts the characters of a text in memory, so that their sum is far within
a word of the machine. -/
structure Widths where
  name : Nat
  kind : Nat
  scope : Nat
  address : Nat
  deriving DecidableEq, Repr

namespace Widths

def toList (w : Widths) : List Nat := [w.name, w.kind, w.scope, w.address]

def sum (w : Widths) : Nat := w.name + w.kind + w.scope + w.address

def total (w : Widths) : Nat := w.sum + gapsWidth

def widest (w : Widths) : Nat := max (max w.name w.kind) (max w.scope w.address)

/-- Takes one character from the last of the widest columns. -/
def narrowed (w : Widths) : Widths :=
  if w.address = w.widest then { w with address := w.address - 1 }
  else if w.scope = w.widest then { w with scope := w.scope - 1 }
  else if w.kind = w.widest then { w with kind := w.kind - 1 }
  else { w with name := w.name - 1 }

theorem narrowed_sum {w : Widths} (h : minWidth < w.widest) : w.narrowed.sum < w.sum := by
  simp only [narrowed, minWidth] at *
  unfold widest at *
  split
  · simp only [sum]; omega
  · split
    · simp only [sum]; omega
    · split <;> simp only [sum] <;> omega

/-- Narrows the columns until the table fits or none can be narrowed. -/
def fitted (w : Widths) (page : Nat) : Widths :=
  if h : page < w.total ∧ minWidth < w.widest then
    have := narrowed_sum h.2
    fitted w.narrowed page
  else w
termination_by w.sum

/-- Widens the columns to hold the cells of a row. -/
def including (w : Widths) : SymbolRow → Widths
  | .placeholder => w
  | .entry name kind scope address =>
    ⟨max w.name (Text.width name), max w.kind (Text.width kind),
      max w.scope (Text.width scope), max w.address (Text.width address)⟩

def ofTitles : Widths := ⟨4, 4, 5, 7⟩

def ofRows (rows : List SymbolRow) : Widths := rows.foldl including ofTitles

end Widths

/-- A text cut to the width, its last three characters being dots if something was cut. -/
def shortened (s : List Char) (width : Nat) : List Char :=
  if s.length ≤ width then s else s.take (width - 3) ++ ['.', '.', '.']

/-- The greatest width to which a text can be padded: a width in a format has 16 bits, and the program
comes down on a greater one. The width of a terminal has 16 bits as well, and no column is wider than the
page, or than 22 characters on a narrower page. -/
def padLimit : Nat := 65535

/-- A text brought to exactly the width, if it is at least three and not above the limit. -/
def fittedCell (cell : String) (width : Nat) : List Char :=
  let s := shortened cell.toList width
  s ++ List.replicate (width - s.length) ' '

/-- A line of cells, without blanks at its end. -/
def line (cells : List String) (w : Widths) : String :=
  String.ofList (Text.trimEnd
    (((cells.zipWith fittedCell w.toList).intersperse gap.toList).flatten))

def rowLine (w : Widths) (page : Nat) : SymbolRow → String
  | .placeholder => String.ofList (shortened SymbolRow.placeholderText.toList page)
  | row => line row.cells w

/-- The lines of a symbol table: the titles, a rule and one line for each row. -/
def lines (rows : List SymbolRow) (page : Nat) : List String :=
  let w := (Widths.ofRows rows).fitted page
  line SymbolRow.columns w ::
    Text.repeated (min w.total (max page minWidth)) '─' ::
    rows.map (rowLine w page)

end CompileDesk.Table
