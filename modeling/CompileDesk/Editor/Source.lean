import CompileDesk.Error
import CompileDesk.Files.Operation

/-! # The source file

The program that is edited and compiled is kept in a file. Opened for editing, a missing file is made
with a sample program; opened for compiling, it has to be there.
-/

namespace CompileDesk.SourceFile

def defaultPath : String := "main.mjava"

def sample : String :=
  "int counter;\nboolean done;\n\ncounter = 0;\ndone = false;\n\nwhile (!done) \x7b\n" ++
  "    counter = counter + 1;\n    if (counter > 9) \x7b\n        done = true;\n" ++
  "    \x7d else \x7b\n        done = false;\n    \x7d\n\x7d\n"

def create (path : String) (t : FileTree) : Except DeskError Unit × FileTree :=
  match t.makeParent path with
  | .error e => (.error (.io e), t)
  | .ok made =>
    match made.writeText path sample with
    | .error e => (.error (.io e), made)
    | .ok written => (.ok (), written)

/-- Makes the source file unless something is there. -/
def createOrOpen (path : String) (t : FileTree) : Except DeskError Unit × FileTree :=
  if t.pathExists path then (.ok (), t) else create path t

def openExisting (path : String) (t : FileTree) : Except DeskError Unit :=
  if t.isFile path then .ok () else .error (.sourceNotFound path)

def contents (path : String) (t : FileTree) : Except DeskError String :=
  if t.isFile path then
    match t.readText path with
    | .ok text => .ok text
    | .error e => .error (.io e)
  else .error (.sourceNotFound path)

end CompileDesk.SourceFile
