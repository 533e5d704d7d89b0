import CompileDesk.Canvas.Basic

/-! # What a terminal shows

A terminal keeps showing what was sent to it. Of a newly painted canvas only the cells are sent that differ
from those of the canvas before, so that a cell which a wide symbol hides keeps what it showed. Going through
the cells in order, those hidden behind a symbol are left out, and those that an earlier symbol may have
covered are sent again.
-/

namespace CompileDesk.Canvas

structure Display where
  shown : Canvas
  painted : Canvas
  deriving DecidableEq

/-- A pass through the cells: what is shown, how many of the next cells are hidden, and how many may have
been covered by an earlier symbol. -/
structure Pass where
  shown : Array Cell
  hidden : Nat := 0
  covered : Nat := 0

namespace Pass

def widthOf (c : Cell) : Nat := widthOfText c.symbol

def sending (p : Pass) (i : Nat) (c : Cell) : Pass := { p with shown := p.shown.setIfInBounds i c }

/-- Shows the cells hidden behind a symbol where they differ from the canvas before. -/
def sendingHidden (old new : Array Cell) (i count : Nat) (p : Pass) : Pass :=
  (List.range count).foldl (fun p k =>
    match old[i + k + 1]?, new[i + k + 1]? with
    | some was, some cell => if cell = was then p else p.sending (i + k + 1) cell
    | _, _ => p) p

def asksForPicture (c : Cell) : Bool := c.symbol.toList.any (· == '\ufe0f')

/-- Takes the cell at a place. Behind a symbol that asks to be shown as a picture hidden cells are sent
too. -/
def step (old new : Array Cell) (p : Pass) (i : Nat) : Pass :=
  let was := old[i]?.getD {}
  let cell := new[i]?.getD {}
  let width := widthOf cell
  let sends := p.hidden = 0 && (cell != was || 0 < p.covered)
  let sent := if sends then p.sending i cell else p
  let sent := if sends && asksForPicture cell then sent.sendingHidden old new i (width - 1) else sent
  { sent with
    hidden := width - 1
    covered := max (max width (widthOf was)) p.covered - 1 }

end Pass

namespace Display

def blank (width height : Nat) : Display := ⟨.blank width height, .blank width height⟩

def refreshed (d : Display) (c : Canvas) : Display :=
  let pass := (List.range c.cells.size).foldl (Pass.step d.painted.cells c.cells) ⟨d.shown.cells, 0, 0⟩
  ⟨{ c with cells := pass.shown }, c⟩

end Display
end CompileDesk.Canvas
