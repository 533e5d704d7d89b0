import CompileDesk.Script.Condition
import CompileDesk.Script.Printf
import CompileDesk.Script.Source

/-! # Commands of the script language

These commands belong to the language; they change the state of the script and give a number, zero for
success. A misused command of the special ones ends the script.
-/

namespace CompileDesk.Script

/-- The commands whose misuse ends the script. -/
def specialCommands : List String :=
  [".", ":", "break", "continue", "eval", "exec", "exit", "export", "readonly", "return", "set", "shift",
    "times", "trap", "unset"]

def greatestNumber : Nat := 2147483647

def number? (argument : List Char) : Option Nat :=
  if !argument.isEmpty && argument.all Text.isDigit && Text.natural argument ≤ greatestNumber then
    some (Text.natural argument)
  else none

/-- Goes on with the number that the first argument gives, or with a default. -/
def withNumber (s : State) (command : String) (default : Nat) (args : List (List Char))
    (go : Nat → State) : State :=
  match args with
  | [] => go default
  | a :: _ =>
    match number? a with
    | some n => go n
    | none => s.dies (command ++ ": " ++ Condition.illegalNumber a)

/-- The number of the signal that a text names; zero is the end of the script. -/
def signalNumber? (s : List Char) : Option Nat :=
  if !s.isEmpty && s.all Text.isDigit then
    if Text.natural s ≤ Signal.greatest then some (Text.natural s) else none
  else Signal.number? (String.ofList (s.map Char.toUpper))

/-- Sends a signal to the script itself or to programs that are not there. A trap catches it, or makes the
script ignore it if there is no command in it. -/
def signalled (s : State) (signal : Nat) (targets : List (List Char)) : State :=
  if targets.contains ['$', '$'] then
    match if Signal.isUnstoppable signal then none else s.traps.lookup signal with
    | some [] => s.gives 0
    | some _ => { s.gives 0 with caught := s.caught ++ [signal] }
    | none => if Signal.isIdle signal then s.gives 0 else s.ends (.signal signal)
  else (s.say "kill: No such process").gives 1

/-- Writes the names of signals, given by their numbers or by what programs give that they ended. -/
def signalNames (s : State) (args : List (List Char)) : State :=
  match args with
  | [] =>
    let names := "0" :: (List.range (Signal.greatest + 1)).filterMap Signal.scriptName?
    (s.print (names.flatMap fun name => name.toList ++ ['\n'])).gives 0
  | a :: _ =>
    match (number? a).bind fun n => Signal.scriptName? (if 128 < n then n - 128 else n) with
    | some name => (s.print (name.toList ++ ['\n'])).gives 0
    | none => s.dies ("kill: invalid signal number or exit status: " ++ String.ofList a)

/-- The command `trap`: the first argument is what is done at the signals that follow, or a dash for nothing
special. -/
def trap (s : State) (args : List (List Char)) : State :=
  let (action, signals) := match args with
    | ['-', '-'] :: action :: signals | action :: signals =>
      if signals.isEmpty then (['-'], [action]) else (action, signals)
    | [] => ([], [])
  signals.foldl (fun s name =>
    match signalNumber? name with
    | none => (s.say ("trap: " ++ String.ofList name ++ ": bad trap")).gives 1
    | some n =>
      { s with
        traps := if action == ['-'] then s.traps.filter fun t => t.1 != n else bind n action s.traps })
    (s.gives 0)

def kill (s : State) (args : List (List Char)) : State :=
  match args with
  | [] => (s.say ("kill: Usage: kill [-s sigspec | -signum | -sigspec] [pid | job]... or\n" ++
    "kill -l [exitstatus]")).gives 2
  | ['-', 'l'] :: numbers => signalNames s numbers
  | ['-', 's'] :: name :: targets =>
    match signalNumber? name with
    | some n => signalled s n targets
    | none => (s.say ("kill: invalid signal number or name: " ++ String.ofList name)).gives 2
  | ('-' :: c :: name) :: targets =>
    match signalNumber? (c :: name) with
    | some n => signalled s n targets
    | none => (s.say ("kill: Illegal option -" ++ c.toString)).gives 2
  | targets => signalled s 15 targets

/-- Characters of a line of which a backslash takes away the meaning, and the backslashes away. -/
def lineMarked : List Char → List (Char × Bool)
  | '\\' :: c :: rest => (c, true) :: lineMarked rest
  | c :: rest => (c, false) :: lineMarked rest
  | [] => []

/-- Gives the fields of a line to variables; the last one takes what is left. -/
def spread (separators : List Char) (s : State) : List (List Char) → List (Char × Bool) → State
  | [], _ => s
  | name :: names, line =>
    let isSeparator (c : Char × Bool) : Bool := !c.2 && separators.contains c.1
    let line := line.dropWhile isSeparator
    match names with
    | [] => s.assign name ((line.reverse.dropWhile isSeparator).reverse.map Prod.fst)
    | _ =>
      let field := line.takeWhile fun c => !isSeparator c
      spread separators (s.assign name (field.map Prod.fst)) names (line.drop field.length)

/-- The command `read`: a line of the input is spread over variables. -/
def readLine (s : State) (args : List (List Char)) : State :=
  let (raw, names) := match args with
    | ['-', 'r'] :: names => (true, names)
    | names => (false, names)
  let bytes := s.input.takeWhile (· != 10)
  let text := textOf bytes
  let line := if raw then text.map fun c => (c, false) else lineMarked text
  let isWhole := bytes.length < s.input.length
  (spread s.separators { s with input := s.input.drop (bytes.length + 1) } names line).tells isWhole

def Options.set? (o : Options) (on : Bool) : Char → Option Options
  | 'e' => some { o with stopsAtFailure := on }
  | 'u' => some { o with demandsValues := on }
  | 'x' => some { o with traces := on }
  | 'f' => some { o with keepsPatterns := on }
  | 'n' => some { o with onlyReads := on }
  | 'a' | 'b' | 'C' | 'E' | 'i' | 'I' | 'm' | 'v' | 'V' | 'l' | 'p' | 'q' | 's' => some o
  | _ => none

/-- Sets options given by letters; otherwise the first letter that is none. -/
def Options.setAll (on : Bool) : Options → List Char → Except Char Options
  | o, [] => .ok o
  | o, c :: rest =>
    match o.set? on c with
    | some o => o.setAll on rest
    | none => .error c

def optionLetter? (name : List Char) : Option Char :=
  [("errexit", 'e'), ("nounset", 'u'), ("xtrace", 'x'), ("noglob", 'f'), ("noexec", 'n'),
    ("verbose", 'v')].lookup (String.ofList name)

/-- The command `set`: options first, then the arguments of the script. -/
def setCommand (s : State) : List (List Char) → State
  | [] => s.gives 0
  | ['-', '-'] :: args => { s.gives 0 with arguments := args }
  | ['-', 'o'] :: name :: rest | ['+', 'o'] :: name :: rest =>
    match optionLetter? name with
    | some c => setCommand { s with options := (s.options.set? true c).getD s.options } rest
    | none => s.dies ("set: Illegal option -o " ++ String.ofList name)
  | ('-' :: c :: letters) :: rest =>
    match s.options.setAll true (c :: letters) with
    | .ok options => setCommand { s with options } rest
    | .error c => s.dies ("set: Illegal option -" ++ c.toString)
  | ('+' :: c :: letters) :: rest =>
    match s.options.setAll false (c :: letters) with
    | .ok options => setCommand { s with options } rest
    | .error c => s.dies ("set: Illegal option +" ++ c.toString)
  | args => { s.gives 0 with arguments := args }

/-- The name before an equals sign and the text after it. -/
def splitAssignment (s : List Char) : List Char × Option (List Char) :=
  match Text.splitOnce ['='] s with
  | some (name, value) => (name, some value)
  | none => (s, none)

def declareAll (before after : State → List Char → State) (s : State) (args : List (List Char)) : State :=
  args.foldl (fun s arg =>
    if !s.isOnward then s
    else
      let (name, value) := splitAssignment arg
      let s := before s name
      after (match value with
        | some value => s.assign name value
        | none => s) name) (s.gives 0)

def declare (s : State) (command : String) (args : List (List Char)) : State :=
  let unmarked (s : State) (_ : List Char) : State := s
  match command with
  | "export" => declareAll unmarked (fun s name => { s with exported := name :: s.exported }) s args
  | "readonly" => declareAll unmarked (fun s name => { s with constants := name :: s.constants }) s args
  | _ =>
    match s.outside with
    | none => s.dies (command ++ ": not in a function")
    | some _ =>
      declareAll (fun s name =>
        { s with outside := s.outside.map fun o => (name, s.bindings.lookup name) :: o }) unmarked s args

def unsetAll (s : State) (args : List (List Char)) : State :=
  match args with
  | ['-', 'f'] :: names => { s.gives 0 with functions := s.functions.filter fun f => !names.contains f.1 }
  | ['-', 'v'] :: names | names =>
    match names.find? fun name => s.constants.contains name with
    | some name => s.dies ("unset: " ++ String.ofList name ++ ": is read only")
    | none => { s.gives 0 with bindings := s.bindings.filter fun b => !names.contains b.1 }

def changeFolder (s : State) (args : List (List Char)) : State :=
  let target := args.headD (s.value "HOME".toList)
  if s.files.isFolder (s.path target) then { s.gives 0 with folder := s.path target }
  else (s.say ("cd: can't cd to " ++ String.ofList target)).gives 2

def testCommand (s : State) (name : String) (args : List (List Char)) : State :=
  match Condition.holds s args with
  | .ok holds => s.tells holds
  | .error message => (s.say (name ++ ": " ++ message)).gives 2

/-- The command `break` or `continue`, which does nothing outside of loops. -/
def leaveLoops (s : State) (command : String) (args : List (List Char)) (flow : Nat → Flow) : State :=
  withNumber s command 1 args fun n =>
    if n = 0 then s.dies (command ++ ": " ++ Condition.illegalNumber ['0'])
    else if s.loops = 0 then s.gives 0
    else { s.gives 0 with flow := flow (min n s.loops) }

/-- Carries out a command of the language, if it is one. -/
def builtin? (command : String) (args : List (List Char)) (s : State) : Option State :=
  match command with
  | "umask" => some (if args.isEmpty then (s.print "0022\n".toList).gives 0 else s.gives 0)
  | ":" | "true" | "wait" | "jobs" | "times" | "alias" | "hash" | "ulimit" => some (s.gives 0)
  | "false" => some (s.gives 1)
  | "trap" => some (trap s args)
  | "echo" => some ((s.write 1 (echo args)).gives 0)
  | "printf" =>
    some (match args with
      | [] => (s.say "printf: usage: printf format [arg ...]").gives 2
      | ['-', '-'] :: format :: args | format :: args => printf s format args)
  | "test" => some (testCommand s "test" args)
  | "[" =>
    some (if args.getLast? == some [']'] then testCommand s "[" args.dropLast
      else (s.say "[: missing ]").gives 2)
  | "exit" => some (withNumber s "exit" s.last args fun n => s.ends (.code (n % 256)))
  | "return" => some (withNumber s "return" s.last args fun n => { s.gives n with flow := .returned })
  | "break" => some (leaveLoops s command args .left)
  | "continue" => some (leaveLoops s command args .nextRound)
  | "shift" =>
    some (withNumber s "shift" 1 args fun n =>
      if s.arguments.length < n then s.dies "shift: can't shift that many"
      else { s.gives 0 with arguments := s.arguments.drop n })
  | "kill" => some (kill s args)
  | "read" => some (readLine s args)
  | "set" => some (setCommand s args)
  | "export" | "readonly" | "local" => some (declare s command args)
  | "unset" => some (unsetAll s args)
  | "cd" | "chdir" => some (changeFolder s args)
  | "pwd" => some ((s.print ('/' :: (s.folder.toList ++ ['\n']))).gives 0)
  | _ => none

def builtinCommands : List String :=
  specialCommands ++ ["[", "alias", "cd", "chdir", "command", "echo", "false", "hash", "jobs", "kill", "local",
    "printf", "pwd", "read", "test", "true", "type", "ulimit", "umask", "wait"]

/-! ## What names stand for -/

inductive Meaning where
  | keyword
  | special
  | function
  | builtin
  | program
  deriving DecidableEq, Repr

/-- What a name stands for, if it stands for anything. -/
def meaning? (s : State) (name : List Char) : Option Meaning :=
  let text := String.ofList name
  if reservedWords.contains text then some .keyword
  else if specialCommands.contains text then some .special
  else if (s.functions.lookup name).isSome then some .function
  else if builtinCommands.contains text then some .builtin
  else if Entry.programs.contains text then some .program
  else none

def programFolder : String := "/usr/bin/"

def Meaning.described (name : String) : Meaning → String
  | keyword => name ++ " is a shell keyword"
  | special => name ++ " is a special shell builtin"
  | function => name ++ " is a shell function"
  | builtin => name ++ " is a shell builtin"
  | program => name ++ " is " ++ programFolder ++ name

def describe (s : State) (names : List (List Char)) : State :=
  names.foldl (fun s name =>
    let text := String.ofList name
    match meaning? s name with
    | some m => s.print (m.described text ++ "\n").toList
    | none => (s.print (text ++ ": not found\n").toList).gives 127) (s.gives 0)

/-- The command `command -v`, which tells how a name would be found. -/
def locateName (s : State) (name : List Char) : State :=
  match meaning? s name with
  | none => s.gives 127
  | some .program => (s.print (programFolder.toList ++ name ++ ['\n'])).gives 0
  | some _ => (s.print (name ++ ['\n'])).gives 0

end CompileDesk.Script
