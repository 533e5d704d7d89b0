import CompileDesk.Program.Location
import CompileDesk.Program.Standard
import CompileDesk.Script.Reader
import CompileDesk.Script.Redirection

/-! # Starting programs

A program starts with the state of whoever starts it: its files, its input and its streams. Of the variables it
gets those that are exported. The programs that run scripts are started here, all others are standard programs.
-/

namespace CompileDesk.Script

def interpreters : List String := ["sh", "dash", "bash"]

def State.started (s : State) (name : List Char) (args : List (List Char))
    (bindings : List (List Char × List Char)) : State :=
  { s with
    name
    arguments := args
    bindings := bindings ++ s.bindings.filter fun b => s.exported.contains b.1
    functions := []
    options := {}
    constants := []
    outside := none
    traps := []
    caught := []
    line := 0
    last := 0
    loops := 0
    testing := false
    flow := .onward }

/-- How an interpreter is called: with options and arguments. The script is given as a text or comes from the
input if that is said; otherwise it is a file that is named, or the input if none is. -/
structure Call where
  options : Options := {}
  isText : Bool := false
  isInput : Bool := false
  arguments : List (List Char) := []

def Call.ofArguments (call : Call) : List (List Char) → Except String Call
  | ['-', '-'] :: rest | ['-'] :: rest => .ok { call with arguments := rest }
  | ['-', 'o'] :: name :: rest =>
    match (optionLetter? name).bind (call.options.set? true) with
    | some options => Call.ofArguments { call with options } rest
    | none => .error ("-o " ++ String.ofList name)
  | (sign :: letter :: letters) :: rest =>
    if sign != '-' && sign != '+' then .ok { call with arguments := (sign :: letter :: letters) :: rest }
    else
      let letters := letter :: letters
      match call.options.setAll (sign == '-') (letters.filter (· != 'c')) with
      | .ok options =>
        Call.ofArguments { call with
          options
          isText := call.isText || letters.contains 'c'
          isInput := call.isInput || letters.contains 's' } rest
      | .error c => .error ("-" ++ c.toString)
  | rest => .ok { call with arguments := rest }

/-- Carries out the command that a script has for its end, if any. The script ends as it would have ended
without the command, unless the command ends it otherwise. -/
def finished (inner : Inner) (s : State) : State :=
  match s.traps.lookup 0, s.status with
  | some (c :: action), .code n =>
    let after := inner (parse (c :: action)) { s with traps := s.traps.filter (·.1 != 0), flow := .onward }
    if after.isOnward then { after with flow := s.flow, last := n } else after
  | _, _ => s

/-- Carries out the commands for the signals that were caught. -/
def handled (inner : Inner) (s : State) : State :=
  s.caught.foldl (fun s signal =>
    if !s.isOnward then s
    else
      let after := inner (parse ((s.traps.lookup signal).getD [])) { s with caught := [] }
      if after.isOnward then after.gives s.last else after) { s with caught := [] }

def interpret (inner : Inner) (name : String) (args : List (List Char))
    (bindings : List (List Char × List Char)) (s : State) : State :=
  let run (name : List Char) (args : List (List Char)) (options : Options) (script : List Char) (s : State) :
      State :=
    finished inner (inner (parse script) { s.started name args bindings with options })
  let fails (message : String) : State := (s.complain (name ++ ": 0: " ++ message)).ends (.code 2)
  match Call.ofArguments {} args with
  | .error option => fails ("Illegal option " ++ option)
  | .ok call =>
    match call.isText, call.isInput, call.arguments with
    | true, _, [] => fails "-c requires an argument"
    | true, _, script :: rest => run (rest.headD name.toList) (rest.drop 1) call.options script s
    | false, false, file :: rest =>
      match s.files.readBytes (s.path file) with
      | .ok bytes => run file rest call.options (textOf bytes.toList) s
      | .error e => fails (openingFault false file e)
    | false, _, args => run name.toList args call.options (textOf s.input) { s with input := [] }

def start (inner : Inner) (l : Program.Located) (s : State) : State :=
  if interpreters.contains l.program then interpret inner l.name l.arguments l.bindings s
  else Program.standard l.program l.arguments { s with name := l.name.toList, flow := .onward }

def State.resumed (s after : State) : State :=
  { s with
    files := after.files
    input := after.input
    buffers := after.buffers
    nextBuffer := after.nextBuffer
    last := after.status.number }

/-- Runs the program of a command, and gives its state or why there is none. A file that is executable but
names no interpreter is taken for a script. -/
def launch (inner : Inner) (s : State) (command : List Char) (args : List (List Char))
    (bindings : List (List Char × List Char)) : Except IoError State :=
  match Program.locate s.files s.folder (String.ofList command) args with
  | .ok l =>
    let l := Program.behindEnv s.files s.folder Program.chainLimit l
    .ok (start inner { l with bindings := l.bindings ++ bindings } s)
  | .error .notAProgram => .ok (interpret inner "sh" (command :: args) bindings s)
  | .error e => .error e

def unlaunched (s : State) (opening : String) (command : List Char) (e : IoError) : State :=
  let reason := match e with
    | .notFound | .notAFolder => "not found"
    | e => e.reason
  let number := match e with
    | .notFound | .notAFolder | .nameTooLong | .tooManyTurns => 127
    | _ => 126
  (s.say (opening ++ String.ofList command ++ ": " ++ reason)).gives number

end CompileDesk.Script
