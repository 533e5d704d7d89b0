import CompileDesk.Panes.Basic
import CompileDesk.Terminal.Colour

/-! # Messages on a terminal

What a command writes goes to two streams, one for results and one for errors. A message begins with
a coloured word or sign that tells its kind.
-/

namespace CompileDesk

structure Transcript where
  output : String := ""
  errors : String := ""
  deriving DecidableEq, Repr

namespace Transcript

def line (t : Transcript) (text : String) : Transcript :=
  { t with output := t.output ++ text ++ "\n" }

def lines (t : Transcript) (texts : List String) : Transcript := texts.foldl line t

theorem lines_eq (t : Transcript) (texts : List String) :
    t.lines texts = { t with output := t.output ++ String.join (texts.map (· ++ "\n")) } := by
  unfold lines
  induction texts generalizing t with
  | nil => simp [String.join]
  | cons text texts ih =>
    rw [List.foldl_cons, ih]
    simp [line, String.append_assoc]

theorem lines_append (t : Transcript) (first second : List String) :
    t.lines (first ++ second) = (t.lines first).lines second := List.foldl_append

def errorLine (t : Transcript) (text : String) : Transcript :=
  { t with errors := t.errors ++ text ++ "\n" }

end Transcript

namespace Terminal

def errorText (text : String) : String := red ++ bold ++ "Error:" ++ reset ++ " " ++ text

def warningText (text : String) : String := yellow ++ "Warning:" ++ reset ++ " " ++ text

def infoText (text : String) : String := cyan ++ "Info:" ++ reset ++ " " ++ text

def successText (text : String) : String := green ++ "✔" ++ reset ++ " " ++ text

end Terminal

def Transcript.error (t : Transcript) (text : String) : Transcript :=
  t.errorLine (Terminal.errorText text)

def Transcript.warning (t : Transcript) (text : String) : Transcript :=
  t.line (Terminal.warningText text)

def Transcript.info (t : Transcript) (text : String) : Transcript :=
  t.line (Terminal.infoText text)

def Transcript.success (t : Transcript) (text : String) : Transcript :=
  t.line (Terminal.successText text)

/-- Writes a status; an error goes to the stream for errors. -/
def Transcript.status (t : Transcript) (s : Status) : Transcript :=
  match s.kind with
  | .info => t.info s.text
  | .success => t.success s.text
  | .warning => t.warning s.text
  | .error => t.error s.text

end CompileDesk
