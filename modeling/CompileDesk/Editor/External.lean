import CompileDesk.Error
import CompileDesk.Program.Ran

/-! # Editing with a program

The source is edited with a program of the user's choice. The choice is a command line; it is split at
blanks, and the path of the source follows as the last argument.
-/

namespace CompileDesk

/-- The user's choices of an editor: one for screens, and one for all terminals. -/
structure EditorChoice where
  visual : Option String := none
  editor : Option String := none
  deriving DecidableEq, Repr

namespace EditorChoice

def fallback : String := "vi"

/-- The command line of the editor: the first choice that is not blank. -/
def commandLine (c : EditorChoice) : String :=
  (([c.visual, c.editor].filterMap id).find? fun choice => !Text.blank choice).getD fallback

def wordsOf (line : String) : List String := (Text.words line.toList).map String.ofList

def environment (c : EditorChoice) : Program.Environment :=
  (c.visual.map fun v => ("VISUAL", v)).toList ++ (c.editor.map fun v => ("EDITOR", v)).toList

/-- Edits the file at a path and waits for the editor to end. The editor sees the choices among its
variables. -/
def edit (c : EditorChoice) (programs : Programs) (environment : Program.Environment) (path : String)
    (t : FileTree) : Except DeskError Unit × FileTree :=
  match wordsOf c.commandLine with
  | [] => (.error (.editor "no editor configured"), t)
  | program :: arguments =>
    match programs (environment ++ c.environment) t program (arguments ++ [path]) .empty with
    | .error e => (.error (.editor ("failed to start `" ++ program ++ "`: " ++ e.message)), t)
    | .ok ran =>
      if ran.status.isSuccess then (.ok (), ran.files)
      else
        (.error (.editor ("`" ++ c.commandLine ++ "` exited with " ++ ran.status.message)), ran.files)

end EditorChoice
end CompileDesk
