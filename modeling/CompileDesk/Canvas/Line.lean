import CompileDesk.Canvas.Basic
import CompileDesk.Text.Blank

/-! # Lines of text

A line is a list of spans, each with its style. It is cut off at the width of its place, or wrapped at
blanks. Wrapping either keeps the blanks at the front of a line or leaves them out.
-/

namespace CompileDesk.Canvas

structure Span where
  text : String
  style : Style := {}
  deriving DecidableEq, Repr

abbrev Painted := Glyph × Style

/-- A line of text: spans on top of a style of the line. -/
structure Line where
  spans : List Span
  style : Style := {}
  deriving DecidableEq, Repr

namespace Line

def plain (text : String) : Line := ⟨[⟨text, {}⟩], {}⟩

def styled (text : String) (style : Style) : Line := ⟨[⟨text, {}⟩], style⟩

def painted (l : Line) : List Painted :=
  l.spans.flatMap fun span => (glyphs span.text).map fun g => (g, l.style.patch span.style)

def ofText (text : String) : List Line :=
  if text.isEmpty then [plain ""] else (Text.linesOf text).map plain

end Line

def widthOf : List Painted → Nat
  | [] => 0
  | g :: rest => g.1.width + widthOf rest

def cutOff : Nat → List Painted → List Painted
  | _, [] => []
  | room, g :: rest => if g.1.width ≤ room then g :: cutOff (room - g.1.width) rest else []

/-- A line cut off at a width; glyphs wider than the whole width are left out. -/
def truncated (width : Nat) (gs : List Painted) : List Painted :=
  cutOff width (gs.filter fun g => g.1.width ≤ width)

def isBreak (g : Glyph) : Bool :=
  g.symbol == ['\u200b'] || (g.symbol.all Text.isBlank && g.symbol != ['\u00a0'])

/-- Text under way while a line is wrapped: finished lines, the line under way, the blanks after it
and the word after those. -/
structure Wrapping where
  finished : List (List Painted) := []
  line : List Painted := []
  blanks : List Painted := []
  word : List Painted := []
  afterWord : Bool := false

namespace Wrapping

/-- Moves the word, and the blanks before it, to the line under way. Blanks at the front of a line are
kept only where lines are not trimmed. -/
def settled (trim : Bool) (w : Wrapping) : Wrapping :=
  let kept := if w.line.isEmpty && trim then [] else w.blanks
  { w with line := w.line ++ kept ++ w.word, blanks := [], word := [] }

/-- Whether the word has ended, or cannot stay on one line with what is before it. -/
def mustSettle (trim : Bool) (width : Nat) (w : Wrapping) (g : Painted) : Bool :=
  (w.afterWord && isBreak g.1) ||
    (w.line.isEmpty &&
      (if trim then width < widthOf w.word + g.1.width || width < widthOf w.blanks + g.1.width
        else width < widthOf w.word + widthOf w.blanks + g.1.width))

/-- Whether the line under way is full, or would be with the next glyph. -/
def mustBreak (width : Nat) (w : Wrapping) (g : Painted) : Bool :=
  width ≤ widthOf w.line ||
    (0 < g.1.width && width ≤ widthOf w.line + widthOf w.blanks + widthOf w.word)

/-- The blanks that are left after those that fill the rest of the line. -/
def blanksAfter : Nat → List Painted → List Painted
  | _, [] => []
  | room, g :: rest => if g.1.width ≤ room then blanksAfter (room - g.1.width) rest else g :: rest

def broken (width : Nat) (w : Wrapping) : Wrapping :=
  { w with
    finished := w.finished ++ [w.line]
    line := []
    blanks := blanksAfter (width - widthOf w.line) w.blanks }

def append (w : Wrapping) (g : Painted) : Wrapping :=
  if isBreak g.1 then { w with blanks := w.blanks ++ [g], afterWord := false }
  else { w with word := w.word ++ [g], afterWord := true }

/-- Takes the next glyph. A blank at which a line is broken is left out. -/
def step (trim : Bool) (width : Nat) (w : Wrapping) (g : Painted) : Wrapping :=
  if width < g.1.width then w
  else
    let w := if w.mustSettle trim width g then w.settled trim else w
    if w.mustBreak width g then
      let w := w.broken width
      if isBreak g.1 && w.blanks.isEmpty then w else w.append g
    else w.append g

/-- The lines at the end of the text; there is always one. -/
def lines (trim : Bool) (w : Wrapping) : List (List Painted) :=
  let last := (w.settled trim).line
  if last.isEmpty && !w.finished.isEmpty then w.finished else w.finished ++ [last]

end Wrapping

def wrapped (trim : Bool) (width : Nat) (gs : List Painted) : List (List Painted) :=
  (gs.foldl (Wrapping.step trim width) {}).lines trim

end CompileDesk.Canvas
