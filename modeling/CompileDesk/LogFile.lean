import CompileDesk.Error
import CompileDesk.Files.Operation
import CompileDesk.Settings.Storage

/-! # The log file

While the screen belongs to the interactive program, its log goes to a file. Opening the log makes the
folders that lead to it and keeps what is in the file.
-/

namespace CompileDesk.LogFile

def path (folder : String) : String := Path.join (Settings.logsFolder folder) "mjc.log"

/-- Opens a log file, making it when it is missing. -/
def openFile (path : String) (t : FileTree) : Except IoError FileTree :=
  (t.makeParent path).bind fun t => t.openToAppend path

end CompileDesk.LogFile
