import CompileDesk.Files.Operation
import CompileDesk.Program.Status

/-! # The programs of a host

A host runs a command on its files, with variables, arguments and input. The command changes files and leaves
output, messages and a status behind, or the host has no such program and an error tells why. Nothing more is
known of the programs of a host.
-/

namespace CompileDesk

structure Program.Ran where
  files : FileTree
  output : ByteArray
  errors : ByteArray
  status : ExitStatus

abbrev Program.Environment := List (String × String)

abbrev Programs := Program.Environment → FileTree → (command : String) → (arguments : List String) →
  (input : ByteArray) → Except IoError Program.Ran

end CompileDesk
