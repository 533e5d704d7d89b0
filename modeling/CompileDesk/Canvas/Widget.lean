import CompileDesk.Canvas.Span

/-! # Widgets

Frames, paragraphs, rows of tabs and tables are painted on a rectangle of a canvas. What does not fit
is left out.
-/

namespace CompileDesk.Canvas

structure Frame where
  title : String
  lowerTitle : Option String := none
  style : Style := {}
  deriving DecidableEq, Repr

def putLine (c : Canvas) (x y width : Nat) (gs : List Painted) : Canvas :=
  c.putGlyphs x y (cutOff width gs)

/-- Shows a title on a side of a frame; of a title of several lines, one after the other. -/
def putTitle (c : Canvas) (r : Rect) (y : Nat) (title : String) : Canvas :=
  let spans := (Text.linesOf title).map fun line => Span.mk line {}
  c.putSpans y (r.x + 1 + min (Span.widthOf spans) (r.width - 2)) (r.x + 1) spans

/-- Shows the lines and corners of a frame; on a frame of one row the upper side is seen. -/
def putBorder (c : Canvas) (r : Rect) (s : Style) : Canvas :=
  let right := r.x + r.width - 1
  let bottom := r.y + r.height - 1
  let c := c.fill ⟨r.x, r.y, 1, r.height⟩ fun cell => { cell with symbol := "│" }.styled s
  let c := c.fill ⟨r.x, r.y, r.width, 1⟩ fun cell => { cell with symbol := "─" }.styled s
  let c := c.fill ⟨right, r.y, 1, r.height⟩ fun cell => { cell with symbol := "│" }.styled s
  let c := c.fill ⟨r.x, bottom, r.width, 1⟩ fun cell => { cell with symbol := "─" }.styled s
  (((c.put right bottom "┘" s).put right r.y "┐" s).put r.x bottom "└" s).put r.x r.y "┌" s

def frame (c : Canvas) (r : Rect) (f : Frame) : Canvas :=
  if r.isEmpty then c
  else
    let c := (c.putBorder r f.style).putTitle r r.y f.title
    match f.lowerTitle with
    | some title => c.putTitle r (r.y + r.height - 1) title
    | none => c

inductive Fit where
  | cut
  | wrap (trim : Bool)
  deriving DecidableEq, Repr

/-- The rows of some lines on a width. Every line gives at least one row. -/
def Fit.rows (fit : Fit) (width : Nat) (lines : List Line) : List (List Painted) :=
  match fit with
  | cut => lines.map fun l => truncated width l.painted
  | wrap trim => lines.flatMap fun l => wrapped trim width l.painted

def putRows (c : Canvas) (x : Nat) : Nat → List (List Painted) → Canvas
  | _, [] => c
  | y, row :: rest => (c.putGlyphs x y row).putRows x (y + 1) rest

def paragraph (c : Canvas) (r : Rect) (base : Style) (fit : Fit) (lines : List Line) : Canvas :=
  if r.isEmpty then c
  else (c.tint r base).putRows r.x r.y ((fit.rows r.width (lines.take r.height)).take r.height)

def framedParagraph (c : Canvas) (r : Rect) (f : Frame) (base : Style) (fit : Fit)
    (lines : List Line) : Canvas :=
  ((c.tint r base).frame r f).paragraph r.framed base fit lines

/-- Paints tabs from a column on, up to an end; the selected one is in a style of its own. -/
def putTabs (c : Canvas) (y stop selected : Nat) (highlight : Style) :
    Nat → Nat → List String → Canvas
  | _, _, [] => c
  | n, x, title :: rest =>
    let shown := cutOff (stop - (x + 1)) (Line.plain title).painted
    let after := x + 1 + widthOf shown
    let c := (c.putLine x y (stop - x) (Line.plain " ").painted).putGlyphs (x + 1) y shown
    let c := if n = selected then c.tint ⟨x + 1, y, widthOf shown, 1⟩ highlight else c
    let c := c.putLine after y (stop - after) (Line.plain " ").painted
    if rest.isEmpty || stop ≤ after + 1 then c
    else
      (c.put (after + 1) y "│" {}).putTabs y stop selected highlight (n + 1) (after + 2) rest

def tabs (c : Canvas) (r : Rect) (f : Frame) (base highlight : Style) (titles : List String)
    (selected : Nat) : Canvas :=
  let c := (c.tint r base).frame r f
  let inner := r.framed
  if inner.isEmpty then c
  else c.putTabs inner.y (inner.x + inner.width) selected highlight 0 inner.x titles

structure TableRow where
  cells : List String
  style : Style := {}
  deriving DecidableEq, Repr

/-- Paints a row of a table on a rectangle that is one cell high; of a cell the first line is shown. -/
def putTableRow (c : Canvas) (columns : List (Nat × Nat)) (r : Rect) (row : TableRow) : Canvas :=
  (columns.zip row.cells).foldl (fun c ((x, width), text) =>
    c.putSpans r.y (r.x + x + width) (r.x + x) ((Line.ofText text).headD (Line.plain "")).spans)
    (c.tint r row.style)

def table (c : Canvas) (r : Rect) (f : Frame) (widths : List Demand) (header : TableRow)
    (rows : List TableRow) : Canvas :=
  let c := c.frame r f
  let inner := r.framed
  if inner.isEmpty then c
  else
    let columns := divided 0 inner.width 1 widths
    let numbered := ((header :: rows).take inner.height).zipIdx
    numbered.foldl (fun c (row, n) =>
      c.putTableRow columns { inner with y := inner.y + n, height := 1 } row) c

end CompileDesk.Canvas
