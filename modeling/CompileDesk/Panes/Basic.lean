import CompileDesk.Compilation.Verdict
import CompileDesk.Diagram.Edge
import CompileDesk.Diagram.Renderer
import CompileDesk.LocalTime

/-! # The output panes

Three panes show what a compilation produced: the assembly text, the diagram and the symbols. One of
them is selected. A status message tells how the last request went.
-/

namespace CompileDesk

inductive Tab where
  | assembly
  | diagram
  | symbols
  deriving DecidableEq, Repr

namespace Tab

def name : Tab → String
  | assembly => "Assembly"
  | diagram => "Diagram"
  | symbols => "Symbols"

def all : List Tab := [assembly, diagram, symbols]

def index : Tab → Nat
  | assembly => 0
  | diagram => 1
  | symbols => 2

def next : Tab → Tab
  | assembly => diagram
  | diagram => symbols
  | symbols => assembly

end Tab

inductive StatusKind where
  | info
  | success
  | warning
  | error
  deriving DecidableEq, Repr

/-- A message to the user and the time at which it was given. -/
structure Status where
  kind : StatusKind
  text : String
  time : LocalTime
  deriving DecidableEq, Repr

inductive DiagramView where
  | empty
  | rendered (path : Option String) (svgBytes : Nat) (edges : List Edge)
  | failed (source : String) (reason : String)
  deriving DecidableEq, Repr

/-- A row of the symbol pane. The placeholder stands for an empty table. -/
inductive SymbolRow where
  | placeholder
  | entry (name kind scope address : String)
  deriving DecidableEq, Repr

namespace SymbolRow

def placeholderText : String := "No symbols were produced"

def ofSymbol (s : Symbol) : SymbolRow := entry s.name s.kind s.scope s.displayAddress

def cells : SymbolRow → List String
  | placeholder => [placeholderText, "", "", ""]
  | entry name kind scope address => [name, kind, scope, address]

def columns : List String := ["Name", "Type", "Scope", "Address"]

/-- One row for each symbol, or the placeholder when there are none. -/
def ofSymbols (symbols : List Symbol) : List SymbolRow :=
  if symbols.isEmpty then [placeholder] else symbols.map ofSymbol

end SymbolRow

structure Panes where
  assembly : String := ""
  diagram : DiagramView := .empty
  symbols : List SymbolRow := []
  tab : Tab := .assembly
  status : Option Status := none
  deriving DecidableEq, Repr

namespace Panes

/-- Empties the panes and the status line; the selected tab stays. -/
def cleared (p : Panes) : Panes := { p with
  assembly := "", diagram := .empty, symbols := [], status := none }

def withStatus (p : Panes) (kind : StatusKind) (text : String) (time : LocalTime) : Panes :=
  { p with status := some ⟨kind, text, time⟩ }

/-- What is shown for a diagram that was given to a renderer. -/
def diagramView (source : String) : Except RenderError Rendered → DiagramView
  | .ok rendered => .rendered rendered.path rendered.svg.utf8ByteSize (Diagram.edges source)
  | .error e => .failed source e.message

/-- Shows the diagram of a compilation; without one the pane stays as it is. -/
def withDiagram {σ : Type} (render : Renderer σ) (p : Panes) : Option String → σ → Panes × σ
  | none, s => (p, s)
  | some source, s =>
    let (answer, s) := render source s
    ({ p with diagram := diagramView source answer }, s)

/-- Shows the symbols of a compilation; if there are any, the first tab is selected. -/
def withSymbols (p : Panes) (symbols : List Symbol) : Panes := { p with
  symbols := SymbolRow.ofSymbols symbols
  tab := if symbols.isEmpty then p.tab else .assembly }

def present {σ : Type} (render : Renderer σ) (a : Artifacts) (p : Panes) (s : σ) : Panes × σ :=
  let (p, s) := withDiagram render { p with assembly := a.assembly } a.diagram s
  (p.withSymbols a.symbols, s)

end Panes

/-- What presents a compilation: a renderer for its diagram, and a clock for the time of messages. -/
structure Presenter (σ : Type) where
  render : Renderer σ
  clock : σ → LocalTime

end CompileDesk
