import CompileDesk.Program.Ran
import CompileDesk.Script.Execution

/-! # Scripts and standard programs

A host that has the standard programs and runs scripts, and no other programs than these.
-/

namespace CompileDesk.Program

def left (s : Script.State) : Ran :=
  ⟨s.files, ⟨(s.buffer 1).toArray⟩, ⟨(s.buffer 2).toArray⟩, s.status⟩

/-- Whether a text holds a zero character, which ends texts for the system. -/
def holdsZero (text : String) : Bool := text.toList.contains '\x00'

def run : Programs := fun environment files command arguments input =>
  if holdsZero command || arguments.any holdsZero then
    .error (.other "nul byte found in provided data")
  else
    (locate files "" command (arguments.map String.toList)).map fun found =>
      let s : Script.State :=
        { files
          name := command.toList
          arguments := arguments.map String.toList
          bindings := environment.map fun v => (v.1.toList, v.2.toList)
          exported := environment.map fun v => v.1.toList
          input := input.toList }
      left (Script.start Script.run (behindEnv files "" chainLimit found) s)

end CompileDesk.Program
