import CompileDesk.Command.Compile
import CompileDesk.Proofs.SessionInvariant

/-!
# The printed channels

A compilation from the command line prints its results in three channels, one below the other: the assembly
text, the diagram and the symbols. Each channel stands between its heading and a rule, which are as wide as a
page of 80 columns. What is printed is given here by its lines, without a transcript, and the panes are shown
to be written in this way.
-/

namespace CompileDesk

inductive Channel where
  | assembly
  | diagram
  | symbols
  deriving DecidableEq

/-- Something printed: a line of its own, or a channel with the lines in it. -/
inductive Printed where
  | line (text : String)
  | channel (channel : Channel) (content : List String)
  deriving DecidableEq

namespace Channel

def all : List Channel := [assembly, diagram, symbols]

def name : Channel → String
  | assembly => "ASSEMBLY"
  | diagram => "DIAGRAM"
  | symbols => "SYMBOLS"

def heading : Channel → String
  | assembly => Text.repeated 35 '━' ++ " ASSEMBLY " ++ Text.repeated 35 '━'
  | diagram => Text.repeated 35 '━' ++ " DIAGRAM " ++ Text.repeated 36 '━'
  | symbols => Text.repeated 35 '━' ++ " SYMBOLS " ++ Text.repeated 36 '━'

theorem bannerLine_name (c : Channel) : Terminal.bannerLine c.name = c.heading := by
  cases c <;> decide +kernel

def assemblyLines (text : String) : List String :=
  [if text = "" then Terminal.dim ++ "(no assembly)" ++ Terminal.reset else Text.trimmedEnd text]

def savedLine (bytes : Nat) : Option String → String
  | some path => "SVG (" ++ Text.ofNat bytes ++ " bytes) saved to " ++ path
  | none => "SVG rendered (" ++ Text.ofNat bytes ++ " bytes)"

def edgeLine (e : Edge) : String :=
  "  " ++ Terminal.gray ++ e.source ++ Terminal.reset ++ " → " ++ Terminal.gray ++ e.target ++ Terminal.reset

/-- The lines about a diagram: where it was saved and its edges, or why it was not rendered and its source. -/
def diagramLines : DiagramView → List String
  | .empty => [Terminal.dim ++ "(no diagram)" ++ Terminal.reset]
  | .rendered path bytes edges => savedLine bytes path :: edges.map edgeLine
  | .failed source reason =>
    [Terminal.red ++ "Diagram could not be rendered:" ++ Terminal.reset ++ " " ++ reason,
      Text.trimmedEnd source]

/-- The lines that stand in a channel when the panes are printed. -/
def content (p : Panes) : Channel → List String
  | assembly => assemblyLines p.assembly
  | diagram => diagramLines p.diagram
  | symbols => Table.lines p.symbols 80

end Channel

/-- The three channels of the panes. -/
def Panes.channels (p : Panes) : List Printed := Channel.all.map fun c => .channel c (c.content p)

namespace Printed

def edge (text : String) : String := Terminal.cyan ++ Terminal.bold ++ text ++ Terminal.reset

/-- The lines of something printed; an empty one follows each channel. -/
def lines : Printed → List String
  | line text => [text]
  | channel c content => edge c.heading :: (content ++ [edge (Text.repeated 80 '━'), ""])

def text (printed : List Printed) : String := String.join ((printed.flatMap lines).map (· ++ "\n"))

def isChannel : Printed → Bool
  | channel _ _ => true
  | line _ => false

end Printed

namespace Transcript

def printing (t : Transcript) (printed : List Printed) : Transcript :=
  { t with output := t.output ++ Printed.text printed }

theorem printing_eq (t : Transcript) (printed : List Printed) :
    t.printing printed = t.lines (printed.flatMap Printed.lines) := (lines_eq t _).symm

theorem printing_append (t : Transcript) (first second : List Printed) :
    t.printing (first ++ second) = (t.printing first).printing second := by
  simp only [printing_eq, List.flatMap_append, lines_append]

theorem line_eq (t : Transcript) (text : String) : t.line text = t.printing [.line text] :=
  (t.printing_eq [.line text]).symm

theorem assembly_eq (t : Transcript) (text : String) :
    t.assembly text = t.lines (Channel.assemblyLines text) := by
  simp only [assembly, String.isEmpty_iff]
  rfl

theorem diagram_eq (t : Transcript) (view : DiagramView) :
    t.diagram view = t.lines (Channel.diagramLines view) := by
  cases view with
  | empty => rfl
  | failed source reason => rfl
  | rendered path bytes edges => cases path <;> rfl

/-- A section under the name of a channel is that channel, if it is filled with the lines in it. -/
theorem framed_eq (t : Transcript) (c : Channel) {content : Transcript → Transcript} {texts : List String}
    (filled : ∀ t, content t = t.lines texts) :
    t.framed c.name content = t.printing [.channel c texts] := by
  have footer (t : Transcript) :
      t.footer Terminal.cyan = t.lines [Printed.edge (Text.repeated 80 '━'), ""] := rfl
  rw [framed, filled, banner, Channel.bannerLine_name, footer, ← lines_append, printing_eq,
    List.flatMap_singleton]
  rfl

/-- The panes are written as their three channels and the line of a success. -/
theorem panes_eq (t : Transcript) {p : Panes} {message : String}
    (success : p.status.map Status.said = some (.success, message)) :
    t.panes p = t.printing (p.channels ++ [.line (Terminal.successText message)]) := by
  obtain ⟨status, shown, told⟩ := Option.map_eq_some_iff.mp success
  obtain ⟨kind, text, time⟩ := status
  cases told
  have assembly : t.framed "ASSEMBLY" (·.assembly p.assembly) = t.printing _ :=
    t.framed_eq .assembly (·.assembly_eq p.assembly)
  have diagram (t : Transcript) : t.framed "DIAGRAM" (·.diagram p.diagram) = t.printing _ :=
    t.framed_eq .diagram (·.diagram_eq p.diagram)
  have symbols (t : Transcript) :
      t.framed "SYMBOLS" (·.lines (Table.lines p.symbols Terminal.pageWidth)) =
        t.printing [.channel .symbols (Table.lines p.symbols 80)] := t.framed_eq .symbols fun _ => rfl
  rw [panes, shown, assembly, diagram, symbols]
  simp only [← printing_append, status, Transcript.success, line_eq]
  rfl

end Transcript
end CompileDesk
