import CompileDesk.Command.Desk
import CompileDesk.Theme.Preferences

/-! # Settings and the theme

The settings in effect are shown as TOML with coloured keys. A setting is changed in the settings file,
which keeps its content when the change is refused.
-/

namespace CompileDesk.Command

/-- A line of settings; a key in front of an equals sign is coloured. -/
def settingsLine (line : List Char) : String :=
  match Text.splitOnce " = ".toList line with
  | some (key, value) =>
    Terminal.cyan ++ String.ofList key ++ Terminal.reset ++ " = " ++ String.ofList value
  | none => String.ofList line

def settingsLines (h : Host) (s : Settings) : List String :=
  (Terminal.bold ++ "# Effective config" ++ Terminal.reset) ::
    (Terminal.gray ++ "# " ++ Settings.file h.folder ++ Terminal.reset) :: "" ::
    (Text.lines s.plainDocument.toList).map settingsLine

def showSettings (h : Host) (s : Settings) (d : Desk) : Except DeskError Unit × Desk :=
  (.ok (), d.write (·.lines (settingsLines h s)))

def changeSetting (h : Host) (name value : String) (d : Desk) : Except DeskError Unit × Desk :=
  match Settings.load h.folder d.files with
  | (.error e, files) => (.error e, { d with files })
  | (.ok s, files) =>
    let d := { d with files }
    match s.change name value with
    | (_, some fault) => (.error (.config fault.message), d)
    | (s, none) =>
      match s.save h.folder files with
      | .error e => (.error (.io e), d)
      | .ok files =>
        (.ok (), { d with files }.write (·.success ("Set " ++ name ++ " = " ++ value)))

def themeLine (before : String) (t : Theme) : String :=
  Terminal.bold ++ "Theme:" ++ Terminal.reset ++ " " ++ before ++ Terminal.cyan ++ t.name ++
    Terminal.reset

def preferences (h : Host) : Preferences FileTree := .inFile (Preferences.file h.folder)

def showTheme (h : Host) (d : Desk) : Except DeskError Unit × Desk :=
  (.ok (), d.write (·.line (themeLine "" (Theme.load (preferences h) d.files))))

def toggleTheme (h : Host) (d : Desk) : Except DeskError Unit × Desk :=
  let current := Theme.load (preferences h) d.files
  match Theme.toggle (preferences h) current d.files with
  | (.ok chosen, _, files) =>
    (.ok (), { d with files }.write (·.line (themeLine (current.name ++ " → ") chosen)))
  | (.error e, _, files) => (.error e, { d with files })

end CompileDesk.Command
