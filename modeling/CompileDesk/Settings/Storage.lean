import CompileDesk.Error
import CompileDesk.Files.Operation
import CompileDesk.Settings.Format
import CompileDesk.Text.Escape

/-! # The settings file

Settings are kept in a file of the configuration folder. Loading makes the file with the defaults when
it is missing and refuses settings that are not valid.
-/

namespace CompileDesk

/-- The folder in which the program keeps its own files, below the home folder. -/
def configFolder (home : String) : String := Path.join (Path.join home ".config") "mjc"

namespace Settings

def file (folder : String) : String := Path.join folder "config.toml"

def diagramsFolder (folder : String) : String := Path.join folder "diagrams"

def logsFolder (folder : String) : String := Path.join folder "logs"

def shownPath (path : String) : String := Text.quoted path

def save (folder : String) (s : Settings) (t : FileTree) : Except IoError FileTree :=
  (t.makeFolders folder).bind fun t => t.writeText (file folder) s.document

def ofText (folder text : String) : Except DeskError Settings :=
  match parse text with
  | .error fault =>
    .error (.config
      ("Failed to parse config file at " ++ shownPath (file folder) ++ ": " ++ fault.message))
  | .ok s =>
    match s.fault? with
    | some fault =>
      .error (.config ("Invalid config file at " ++ shownPath (file folder) ++ ": " ++ fault.message))
    | none => .ok s

/-- Loads the settings. A missing file is made with the defaults; the files afterwards come with the
result. -/
def load (folder : String) (t : FileTree) : Except DeskError Settings × FileTree :=
  if t.pathExists (file folder) then
    match t.readText (file folder) with
    | .error e => (.error (.io e), t)
    | .ok text => (ofText folder text, t)
  else
    let initial : Settings := {}
    match t.makeFolders folder with
    | .error e => (.error (.io e), t)
    | .ok made =>
      match made.writeText (file folder) initial.document with
      | .error e => (.error (.io e), made)
      | .ok written => (.ok initial, written)

end Settings
end CompileDesk
