import CompileDesk.Canvas.Layout
import CompileDesk.Canvas.TextWidth
import CompileDesk.Text.Cluster

/-! # Cells and glyphs

A canvas is a grid of cells. Each cell shows a symbol in a style. Text is painted glyph by glyph; a glyph
is a cluster of characters, and control characters give none. A glyph that takes several columns is the
symbol of its first cell; the cells to the right are hidden behind it.
-/

namespace CompileDesk

namespace Canvas

/-- A colour of the terminal; the plain one is whatever the terminal uses. -/
inductive Colour where
  | plain
  | black
  | red
  | green
  | yellow
  | cyan
  | gray
  | darkGray
  | white
  deriving DecidableEq, Repr

/-- A change of how cells look; what it does not name stays. -/
structure Style where
  foreground : Option Colour := none
  background : Option Colour := none
  bold : Bool := false
  deriving DecidableEq, Repr

def Style.patch (s t : Style) : Style :=
  ⟨t.foreground.or s.foreground, t.background.or s.background, s.bold || t.bold⟩

def Style.coloured (c : Colour) : Style := { foreground := some c }

structure Cell where
  symbol : String := " "
  foreground : Colour := .plain
  background : Colour := .plain
  bold : Bool := false
  deriving DecidableEq, Repr, Inhabited

def Cell.styled (c : Cell) (s : Style) : Cell :=
  { c with
    foreground := s.foreground.getD c.foreground
    background := s.background.getD c.background
    bold := c.bold || s.bold }

structure Glyph where
  symbol : List Char
  width : Nat
  deriving DecidableEq, Repr

def Glyph.ofCluster (cluster : List Char) : Glyph := ⟨cluster, widthOfChars cluster⟩

def glyphs (s : String) : List Glyph :=
  ((Text.Cluster.clusters s.toList).filter fun cluster =>
    !cluster.any Text.Cluster.isControl).map Glyph.ofCluster

end Canvas

structure Canvas where
  width : Nat
  height : Nat
  cells : Array Canvas.Cell
  deriving DecidableEq

namespace Canvas

def blank (width height : Nat) : Canvas := ⟨width, height, Array.replicate (width * height) {}⟩

def area (c : Canvas) : Rect := ⟨0, 0, c.width, c.height⟩

def cell (c : Canvas) (x y : Nat) : Cell := c.cells[y * c.width + x]?.getD {}

def rowText (c : Canvas) (y : Nat) : String :=
  let row := (List.range c.width).flatMap fun x => (c.cell x y).symbol.toList
  String.ofList (row.reverse.dropWhile (· == ' ')).reverse

/-- Changes the cell at a place, if the place is on the canvas. -/
def change (c : Canvas) (x y : Nat) (f : Cell → Cell) : Canvas :=
  if x < c.width then { c with cells := c.cells.modify (y * c.width + x) f } else c

def fill (c : Canvas) (r : Rect) (f : Cell → Cell) : Canvas :=
  (List.range r.height).foldl (fun c j =>
    (List.range r.width).foldl (fun c i => c.change (r.x + i) (r.y + j) f) c) c

def tint (c : Canvas) (r : Rect) (s : Style) : Canvas := c.fill r (·.styled s)

def clear (c : Canvas) (r : Rect) : Canvas := c.fill r fun _ => {}

def put (c : Canvas) (x y : Nat) (symbol : String) (s : Style) : Canvas :=
  c.change x y fun cell => { cell with symbol }.styled s

def append (c : Canvas) (x y : Nat) (symbol : String) (s : Style) : Canvas :=
  c.change x y fun cell => { cell with symbol := cell.symbol ++ symbol }.styled s

/-- Shows glyphs from a place on, each with its style; glyphs without a width are left out. -/
def putGlyphs (c : Canvas) (x y : Nat) : List (Glyph × Style) → Canvas
  | [] => c
  | (g, s) :: rest =>
    if g.width = 0 then c.putGlyphs x y rest
    else (c.put x y (String.ofList g.symbol) s).putGlyphs (x + g.width) y rest

end Canvas
end CompileDesk
