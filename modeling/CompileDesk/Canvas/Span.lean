import CompileDesk.Canvas.Line

/-! # Spans on a canvas

Spans are shown one after the other from a column on, up to but not including a column where there is no
more room. A glyph without a width is shown together with the glyph before it.
-/

namespace CompileDesk.Canvas

def Span.widthOf : List Span → Nat
  | [] => 0
  | span :: rest => widthOfText span.text + Span.widthOf rest

/-- Shows one glyph of a span that starts at a column. The first glyph takes its cell also when it has no
width, and then the next one joins it. -/
def putInSpan (c : Canvas) (y start : Nat) (isFirst : Bool) (x : Nat) (g : Glyph) (s : Style) : Canvas :=
  let symbol := String.ofList g.symbol
  if isFirst then c.put x y symbol s
  else if x = start then c.append x y symbol s
  else if g.width = 0 then c.append (x - 1) y symbol s
  else c.put x y symbol s

/-- Shows the glyphs of a span as far as there is room. The cells hidden behind a glyph are blanked. -/
def putSpanFrom (c : Canvas) (y start stop : Nat) : Bool → Nat → List Painted → Canvas
  | _, _, [] => c
  | isFirst, x, (g, s) :: rest =>
    if stop < x + g.width then c
    else
      ((c.putInSpan y start isFirst x g s).clear ⟨x + 1, y, g.width - 1, 1⟩).putSpanFrom y start stop
        false (x + g.width) rest

def putSpans (c : Canvas) (y stop : Nat) : Nat → List Span → Canvas
  | _, [] => c
  | x, span :: rest =>
    if stop ≤ x then c
    else
      match widthOfText span.text with
      | 0 => c.putSpans y stop x rest
      | width =>
        let painted := (glyphs span.text).map fun g => (g, span.style)
        (c.putSpanFrom y x stop true x painted).putSpans y stop (x + width) rest

end CompileDesk.Canvas
