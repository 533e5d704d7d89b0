import CompileDesk.Diagram.Renderer
import CompileDesk.LocalTime
import CompileDesk.Program.Ran

/-! # Rendering with a program

The source of a diagram is given to a program, which writes the SVG text. A program that cannot be
found is unavailable; one that ends badly has rejected the source, and what it wrote to its error stream
says why. The SVG may be saved in a folder under a name that tells the time.
-/

namespace CompileDesk.Renderer

def savedName (now : LocalTime) : String := "diagram-" ++ now.stamp ++ ".svg"

/-- Saves SVG text in a folder; without one, nothing is saved. -/
def saveSvg (now : LocalTime) (folder : Option String) (svg : String) (t : FileTree) :
    Except RenderError (Option String) × FileTree :=
  match folder with
  | none => (.ok none, t)
  | some folder =>
    match t.makeFolders folder with
    | .error e => (.error (.io e.message), t)
    | .ok made =>
      let path := Path.join folder (savedName now)
      match made.writeText path svg with
      | .error e => (.error (.io e.message), made)
      | .ok written => (.ok (some path), written)

def rejection (ran : Program.Ran) : String :=
  let said := Text.trimmed (Text.lenient ran.errors)
  if said.isEmpty then "exited with " ++ ran.status.message else said

def external (programs : Programs) (environment : Program.Environment) (now : LocalTime) (command : String)
    (folder : Option String) : Renderer FileTree :=
  fun source t =>
    match programs environment t command ["-Tsvg"] (Text.bytesOf source) with
    | .error .notFound => (.error (.unavailable command), t)
    | .error e => (.error (.io e.message), t)
    | .ok ran =>
      if ran.status.isSuccess then
        let svg := Text.lenient ran.output
        let (saved, t) := saveSvg now folder svg ran.files
        match saved with
        | .ok path => (.ok ⟨svg, path⟩, t)
        | .error e => (.error e, t)
      else (.error (.rejected (rejection ran)), ran.files)

def within {σ τ : Type} (render : Renderer σ) (part : τ → σ) (replace : σ → τ → τ) : Renderer τ :=
  fun source s =>
    let (answer, inner) := render source (part s)
    (answer, replace inner s)

end CompileDesk.Renderer
