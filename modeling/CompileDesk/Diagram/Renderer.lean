import CompileDesk.Text.Blank

/-! # Diagram renderers

A renderer turns the source of a diagram into SVG text and may save it in a file. It works on
surroundings of some type, which it can change, and fails in one of three ways.
-/

namespace CompileDesk

inductive RenderError where
  | unavailable (command : String)
  | rejected (reason : String)
  | io (reason : String)
  deriving DecidableEq, Repr

def RenderError.message : RenderError → String
  | unavailable command =>
    "diagram renderer `" ++ command ++ "` is not installed or not on PATH"
  | rejected reason => "diagram renderer rejected the source: " ++ reason
  | io reason => "diagram renderer I/O failed: " ++ reason

structure Rendered where
  svg : String
  path : Option String
  deriving DecidableEq, Repr

abbrev Renderer (σ : Type) := String → σ → Except RenderError Rendered × σ

def Renderer.ofFunction {σ : Type} (f : String → Except RenderError Rendered) : Renderer σ :=
  fun source s => (f source, s)

end CompileDesk
