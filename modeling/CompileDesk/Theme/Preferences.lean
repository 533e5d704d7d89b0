import CompileDesk.Error
import CompileDesk.Files.Operation
import CompileDesk.Settings.Storage
import CompileDesk.Theme.Basic
import CompileDesk.Toml.Meaning
import CompileDesk.Toml.Writer

/-! # Preferences

Preferences are texts under keys, kept somewhere in the surroundings of the program. One such place is
a TOML file, which may hold values of any kind: setting a preference decodes the whole file and
writes it again, so that all other values stay. A file that cannot be decoded is not written.
-/

namespace CompileDesk

/-- A place for preferences in surroundings `σ`: what is under a key, and setting it. -/
structure Preferences (σ : Type) where
  get? : σ → String → Option String
  set : σ → String → String → Except DeskError Unit × σ

namespace Preferences

def inMemory : Preferences (List (String × String)) where
  get? entries key := entries.lookup key
  set entries key value := (.ok (), (key, value) :: entries.filter (·.1 != key))

def within {σ τ : Type} (p : Preferences σ) (part : τ → σ) (replace : σ → τ → τ) :
    Preferences τ where
  get? s key := p.get? (part s) key
  set s key value :=
    let (result, inner) := p.set (part s) key value
    (result, replace inner s)

def file (folder : String) : String := Path.join folder "preferences.toml"

/-- Whether every integer in a table has at most 64 bits, which a preferences file asks for. -/
def isReadable (t : Toml.Table) : Bool := Toml.allIntegersOf Toml.fitsWord t

def ofText (path text : String) : Except DeskError Toml.Table :=
  match (Toml.parse text).bind fun t => Toml.wellFormed ((some t).filter isReadable) with
  | .ok table => .ok table
  | .error fault =>
    .error (.preferences
      ("Failed to parse " ++ Settings.shownPath path ++ ": " ++ fault.message))

/-- All values in a preferences file; a missing file holds none. -/
def readAll (path : String) (t : FileTree) : Except DeskError Toml.Table :=
  if t.pathExists path then
    match t.readText path with
    | .error e => .error (.io e)
    | .ok text => ofText path text
  else .ok []

def writeAll (path : String) (table : Toml.Table) (t : FileTree) : Except IoError FileTree :=
  (t.makeParent path).bind fun t => t.writeText path (Toml.render table)

def setInFile (path : String) (t : FileTree) (key value : String) :
    Except DeskError Unit × FileTree :=
  match readAll path t with
  | .error e => (.error e, t)
  | .ok table =>
    match writeAll path (Toml.insert key (.string value) table) t with
    | .error e => (.error (.io e), t)
    | .ok written => (.ok (), written)

/-- Preferences kept in a file. A file that cannot be read holds no texts. -/
def inFile (path : String) : Preferences FileTree where
  get? t key :=
    match readAll path t with
    | .ok table => Toml.text? table key
    | .error _ => none
  set := setInFile path

end Preferences

namespace Theme

/-- The theme that is stored; without one it is the light theme. -/
def load {σ : Type} (p : Preferences σ) (s : σ) : Theme :=
  match p.get? s key with
  | some value => ofStored value
  | none => light

/-- Changes to the other theme and stores it. The theme stays when it cannot be stored; the theme
afterwards comes with the result. -/
def toggle {σ : Type} (p : Preferences σ) (current : Theme) (s : σ) :
    Except DeskError Theme × Theme × σ :=
  match p.set s key current.toggled.name with
  | (.ok (), s) => (.ok current.toggled, current.toggled, s)
  | (.error e, s) => (.error e, current, s)

end Theme
end CompileDesk
