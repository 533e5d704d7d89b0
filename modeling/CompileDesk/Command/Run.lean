import CompileDesk.Command.Compile
import CompileDesk.Command.Interact
import CompileDesk.Command.Line
import CompileDesk.Command.Preference
import CompileDesk.Command.Service
import CompileDesk.LogFile

/-! # Running the program

Completion scripts and changes of settings need neither a log nor valid settings. All other commands
open the log, load the settings and take the address of the service from the command line if it is
given there. An error is written to the error stream. Where no home folder is known there is no place
for the program's own files, and only completion scripts are to be had.
-/

namespace CompileDesk

structure Ended where
  exitCode : Nat
  desk : Desk

namespace Invocation

def versionText : String := Shell.programName ++ " 0.1.0"

def helpText : String :=
  "Terminal client for a MiniJava compilation service\n\nUsage: " ++ Shell.programName ++
    " [OPTIONS] [COMMAND]\n\nCommands: " ++ Text.joined ", " offered

/-- Loads the settings and puts the given address of the service in place of theirs. -/
def resolveSettings (h : Host) (server : Option String) (files : FileTree) :
    Except DeskError Settings × FileTree :=
  match Settings.load h.folder files, server with
  | (.ok s, files), some url =>
    let s := { s with serverUrl := url }
    match s.fault? with
    | some fault => (.error (.config fault.message), files)
    | none => (.ok s, files)
  | loaded, _ => loaded

def sourceFile? : Task → Option String
  | .interact source _ => some (source.getD SourceFile.defaultPath)
  | .compile file _ => some file
  | _ => none

def paths (h : Host) (i : Invocation) : List String :=
  [Settings.file h.folder, Preferences.file h.folder, LogFile.path h.folder,
    Settings.diagramsFolder h.folder] ++ (sourceFile? i.task).toList

/-- Opens the log, which is a file only for the interactive program. -/
def openLog (h : Host) (t : Task) (files : FileTree) : Except IoError FileTree :=
  match t with
  | .interact _ _ => LogFile.openFile (LogFile.path h.folder) files
  | _ => .ok files

def carryOut (h : Host) (s : Settings) (t : Task) (d : Desk) : Except DeskError Unit × Desk :=
  match t with
  | .interact source skipLogin => Command.interact h s source skipLogin d
  | .compile file credentials => Command.compile h s file credentials d
  | .login username password => Command.login s username password d
  | .health => Command.health s d
  | .showTheme => Command.showTheme h d
  | .toggleTheme => Command.toggleTheme h d
  | .showSettings => Command.showSettings h s d
  | .changeSetting name value => Command.changeSetting h name value d
  | .completions _ => (.ok (), d)

def complete (shell : String) (d : Desk) : Except DeskError Unit × Desk :=
  match Shell.ofName shell with
  | .ok shell =>
    (.ok (), d.write fun t => { t with output := t.output ++ shell.completionScript offered })
  | .error e =>
    (.error (.shellCompletion (e.message ++ "\nSupported shells: " ++
      Text.joined ", " (Shell.all.map Shell.name))), d)

def prepareAndCarryOut (h : Host) (i : Invocation) (d : Desk) : Except DeskError Unit × Desk :=
  match openLog h i.task d.files with
  | .error e => (.error (.io e), d)
  | .ok files =>
    match resolveSettings h i.server files with
    | (.error e, files) => (.error e, { d with files })
    | (.ok s, files) => carryOut h s i.task { d with files }

def run (h : Host) (i : Invocation) (d : Desk) : Except DeskError Unit × Desk :=
  match i.task with
  | .completions shell => complete shell d
  | .changeSetting name value => Command.changeSetting h name value d
  | _ => prepareAndCarryOut h i d

def homelessText : String := "Could not determine home directory"

/-- What the program does where no home folder is known. -/
def runHomeless (i : Invocation) (d : Desk) : Except DeskError Unit × Desk :=
  match i.task with
  | .completions shell => complete shell d
  | _ => (.error (.config homelessText), d)

end Invocation

/-- Runs the program with the words of a command line, on a host if its home folder is known. -/
def runProgram (h : Option Host) (words : List String) (d : Desk) : Ended :=
  match Invocation.ofWords words with
  | .error (.refused e) => ⟨2, d.write (·.errorLine e.message)⟩
  | .error .help => ⟨0, d.write (·.line Invocation.helpText)⟩
  | .error .version => ⟨0, d.write (·.line Invocation.versionText)⟩
  | .ok i =>
    match h.elim (i.runHomeless d) (i.run · d) with
    | (.ok (), d) => ⟨0, d⟩
    | (.error e, d) => ⟨1, d.write (·.error e.message)⟩

end CompileDesk
