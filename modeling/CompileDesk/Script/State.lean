import CompileDesk.Files.Operation
import CompileDesk.Program.Status
import CompileDesk.Script.Syntax

/-! # The state of a script

A script works on the files, reads its input and writes to streams. A stream is bound to a buffer or a file;
the first two buffers are the output and the messages of the whole program, the others catch the output of
commands whose output is used by the script itself.
-/

namespace CompileDesk.Script

inductive Channel where
  | buffer (number : Nat)
  | file (path : String)
  | closed
  deriving DecidableEq, Repr

/-- How a script goes on: with the next command, behind a number of loops around the command, with the next
round of one of them, behind the function, or not at all. -/
inductive Flow where
  | onward
  | left (levels : Nat)
  | nextRound (levels : Nat)
  | returned
  | ended (status : ExitStatus)
  deriving DecidableEq, Repr

structure Options where
  stopsAtFailure : Bool := false
  demandsValues : Bool := false
  traces : Bool := false
  keepsPatterns : Bool := false
  onlyReads : Bool := false
  deriving DecidableEq, Repr

/-- The state of a running script. Constants are variables that cannot be assigned to. A function remembers
what its local variables were outside of it; nothing is remembered outside of functions. Traps are commands for
a signal, or for the end of the script as signal zero; the signals that were caught wait for their commands.
While a condition is tested, a failure does not stop the script. -/
structure State where
  files : FileTree
  folder : String := ""
  name : List Char
  arguments : List (List Char) := []
  bindings : List (List Char × List Char) := []
  exported : List (List Char) := []
  constants : List (List Char) := []
  outside : Option (List (List Char × Option (List Char))) := none
  functions : List (List Char × Command) := []
  options : Options := {}
  input : List UInt8 := []
  channels : List (Nat × Channel) := [(1, .buffer 1), (2, .buffer 2)]
  buffers : List (Nat × List UInt8) := []
  nextBuffer : Nat := 3
  traps : List (Nat × List Char) := []
  caught : List Nat := []
  line : Nat := 0
  last : Nat := 0
  loops : Nat := 0
  testing : Bool := false
  flow : Flow := .onward

def bytesOf (s : List Char) : List UInt8 := (Text.bytesOf (String.ofList s)).toList

def textOf (bytes : List UInt8) : List Char := (Text.lenient ⟨bytes.toArray⟩).toList

def bind {α β : Type} [BEq α] (key : α) (value : β) (pairs : List (α × β)) : List (α × β) :=
  (key, value) :: pairs.filter fun p => p.1 != key

namespace State

def isOnward (s : State) : Bool := s.flow == .onward

/-- A path as it is seen from the folder of the script. -/
def path (s : State) (p : List Char) : String := Path.join s.folder (String.ofList p)

def buffer (s : State) (number : Nat) : List UInt8 := (s.buffers.lookup number).getD []

def write (s : State) (stream : Nat) (bytes : List UInt8) : State :=
  match s.channels.lookup stream with
  | some (.buffer n) => { s with buffers := bind n (s.buffer n ++ bytes) s.buffers }
  | some (.file path) =>
    let before := (s.files.readBytes path).toOption.getD .empty
    { s with files := (s.files.writeBytes path (before ++ ⟨bytes.toArray⟩)).toOption.getD s.files }
  | _ => s

def print (s : State) (text : List Char) : State := s.write 1 (bytesOf text)

def complain (s : State) (message : String) : State := s.write 2 (bytesOf (message.toList ++ ['\n']))

def say (s : State) (message : String) : State :=
  s.complain (String.ofList s.name ++ ": " ++ Text.ofNat s.line ++ ": " ++ message)

def gives (s : State) (number : Nat) : State := { s with last := number }

def tells (s : State) (holds : Bool) : State := s.gives (if holds then 0 else 1)

def ends (s : State) (status : ExitStatus) : State :=
  { s with last := status.number, flow := .ended status }

/-- Ends the script with a message, as faults of the script itself do. -/
def dies (s : State) (message : String) : State := (s.say message).ends (.code 2)

/-- How a script has ended: as it was ended, or with what its last command gave. -/
def status (s : State) : ExitStatus :=
  match s.flow with
  | .ended status => status
  | _ => .code s.last

def assign (s : State) (name value : List Char) : State :=
  if s.constants.contains name then s.dies (String.ofList name ++ ": is read only")
  else { s with bindings := bind name value s.bindings }

/-- Sets a variable back to what it was, or to have no value. -/
def reset (s : State) (name : List Char) (value : Option (List Char)) : State :=
  { s with
    bindings := match value with
      | some value => bind name value s.bindings
      | none => s.bindings.filter fun b => b.1 != name }

/-- The value of a parameter, if it has one. -/
def value? (s : State) (name : List Char) : Option (List Char) :=
  match name with
  | ['#'] => some (Text.decimal s.arguments.length)
  | ['?'] => some (Text.decimal s.last)
  | ['$'] => some ['$', '$']
  | ['!'] => none
  | ['-'] => some (if s.options.stopsAtFailure then ['e'] else [])
  | ['0'] => some s.name
  | ['@'] | ['*'] =>
    if s.arguments.isEmpty then none else some (s.arguments.intersperse [' ']).flatten
  | _ =>
    if !name.isEmpty && name.all Text.isDigit then
      match Text.natural name with
      | 0 => some s.name
      | n + 1 => s.arguments[n]?
    else s.bindings.lookup name

/-- The value of a parameter; a missing one is empty. -/
def value (s : State) (name : List Char) : List Char := (s.value? name).getD []

def separators (s : State) : List Char := (s.bindings.lookup "IFS".toList).getD [' ', '\t', '\n']

/-- Takes over what a part of the script did that ran apart from it. A signal to the script ends the whole. -/
def rejoined (s after : State) : State :=
  { s with
    files := after.files
    input := after.input
    buffers := after.buffers
    nextBuffer := after.nextBuffer
    last := after.status.number
    flow := match after.flow with
      | .ended (.signal n) => .ended (.signal n)
      | _ => s.flow }

/-- Runs a part of the script apart, with its output caught. -/
def capturing (s : State) (run : State → State) : State × List UInt8 :=
  let n := s.nextBuffer
  let after := run { s with channels := bind 1 (.buffer n) s.channels, nextBuffer := n + 1 }
  (s.rejoined after, after.buffer n)

/-- Restores the channels of an earlier state, and its input if it was replaced. -/
def restored (before after : State) (keepsInput : Bool) : State :=
  { after with
    channels := before.channels
    input := if keepsInput then before.input else after.input }

end State
end CompileDesk.Script
