import CompileDesk.Script.Launch

/-! # Executing scripts

A command is carried out by what it names: a command of the language, a function of the script, a standard
program, or a file that is a script in its turn. The parts of a compound command are carried out by a runner
that is given; the runner of a script is made from itself, and the fuel bounds how deep commands stand inside
each other.
-/

namespace CompileDesk.Script

/-! ## Simple commands -/

def assignmentsOf (words : List Word) : List (List Char × Word) × List Word :=
  match words with
  | [] => ([], [])
  | w :: rest =>
    match assignedName? w with
    | some name =>
      let (more, others) := assignmentsOf rest
      ((name, w) :: more, others)
    | none => ([], words)

def assignAll (inner : Inner) (s : State) : List (List Char × Word) → State
  | [] => s
  | (name, w) :: rest =>
    let (s, text) := expandOne inner s (withoutBare (name.length + 1) w)
    if s.isOnward then assignAll inner (s.assign name text) rest else s

/-- Restores the variables that were assigned to only for one command. -/
def State.unassigned (before after : State) (names : List (List Char)) : State :=
  names.foldl (fun s name => s.reset name (before.bindings.lookup name)) after

def callFunction (inner : Inner) (body : Command) (args : List (List Char)) (s : State) : State :=
  let after := inner [body] { s with arguments := args, outside := some [], loops := 0 }
  let after := (after.outside.getD []).foldl (fun s (name, value) => s.reset name value) after
  { after with
    arguments := s.arguments
    outside := s.outside
    loops := s.loops
    flow := if after.flow = .returned then .onward else after.flow }

/-- Carries out the commands in a file as a part of the script. A file without a slash in its name is looked
for among the programs, where there is no script. -/
def included (inner : Inner) (file : List Char) (s : State) : State :=
  if !file.contains '/' then s.dies (".: " ++ String.ofList file ++ ": not found")
  else
    match s.files.readBytes (s.path file) with
    | .ok bytes =>
      let after := inner (parse (textOf bytes.toList)) (s.gives 0)
      if after.flow = .returned then { after with flow := .onward } else after
    | .error e => s.dies (".: " ++ openingFault false file e)

/-- Carries out a command given by its fields; the assignments are those in front of it. -/
def dispatch (inner : Inner) (bindings : List (List Char × List Char)) (s : State) :
    List (List Char) → State
  | [] => s
  | command :: args =>
    let external (s : State) (command : List Char) (args : List (List Char)) : State :=
      match launch inner s command args bindings with
      | .ok after => s.resumed after
      | .error e => unlaunched s "" command e
    match s.functions.lookup command with
    | some body => callFunction inner body args s
    | none =>
      match String.ofList command, args with
      | "eval", _ => inner (parse (args.intersperse [' ']).flatten) (s.gives 0)
      | ".", file :: _ => included inner file s
      | "type", names => describe s names
      | "command", ['-', 'v'] :: name :: _ => locateName s name
      | "command", name :: args => (builtin? (String.ofList name) args s).getD (external s name args)
      | "exec", name :: args =>
        match launch inner s name args bindings with
        | .ok after => (s.resumed after).ends after.status
        | .error e =>
          let failed := unlaunched s "exec: " name e
          failed.ends (.code failed.last)
      | "exec", [] | "command", [] => s.gives 0
      | name, _ => (builtin? name args s).getD (external s command args)

/-- Writes a command before it is carried out, if the script is traced. -/
def traced (s : State) (fields : List (List Char)) : State :=
  if s.options.traces then s.complain ("+ " ++ String.ofList (fields.intersperse [' ']).flatten) else s

/-- Ends a script that stops at failures after a command that failed. -/
def checked (s : State) : State :=
  if s.options.stopsAtFailure && !s.testing && s.last != 0 && s.isOnward then s.ends (.code s.last)
  else s

/-- Carries out a simple command without a command word: its assignments stay. -/
def onlyAssigning (inner : Inner) (s : State) (assignments : List (List Char × Word))
    (rs : List Redirection) : State :=
  underRedirections inner s rs fun s => assignAll inner s assignments

/-- Carries out a simple command with fields. Redirections of `exec` alone stay. -/
def withFields (inner : Inner) (s : State) (assignments : List (List Char × Word))
    (fields : List (List Char)) (rs : List Redirection) : State :=
  let isSpecial := specialCommands.contains (String.ofList (fields.headD []))
  let run (s : State) : State :=
    let assigned := assignAll inner s assignments
    if !assigned.isOnward then assigned
    else
      let names := assignments.map Prod.fst
      let bindings := assigned.bindings.filter fun b => names.contains b.1
      let after := dispatch inner bindings assigned fields
      if isSpecial then after else s.unassigned after names
  match rs.foldlM (redirect inner) s with
  | .error failed =>
    if isSpecial then failed.ends (.code 2) else s.restored failed (rs.any Redirection.isOfInput)
  | .ok directed =>
    if fields == ["exec".toList] then directed.gives 0
    else s.restored (run directed) (rs.any Redirection.isOfInput)

def simpleCommand (inner : Inner) (s : State) (line : Nat) (words : List Word)
    (rs : List Redirection) : State :=
  let (assignments, others) := assignmentsOf words
  let (s, fields) := expandAll inner { s with line } others
  if !s.isOnward then s
  else
    let s := if fields.isEmpty then s else traced s fields
    if fields.isEmpty then
      let hasOutput := words.any fun w => w.any fun
        | .output _ _ => true
        | _ => false
      onlyAssigning inner (if hasOutput then s else s.gives 0) assignments rs
    else withFields inner s assignments fields rs

/-! ## Compound commands -/

/-- Carries out the parts of a pipeline, each on the output of the one before. -/
def pipe (inner : Inner) (s : State) : List Command → State
  | [] => s
  | [part] => s.rejoined (inner [part] s)
  | part :: rest =>
    let (s, bytes) := s.capturing (inner [part])
    if s.isOnward then { pipe inner { s with input := bytes } rest with input := s.input } else s

/-- Carries out a condition, during which failures do not stop the script. -/
def tested (inner : Inner) (s : State) (test : List Command) : State :=
  { inner test { s with testing := true } with testing := s.testing }

/-- What a loop does after a round: goes on, or ends with a state. -/
def afterRound (s : State) : Except State State :=
  match s.flow with
  | .onward => .ok s
  | .nextRound n =>
    if n ≤ 1 then .ok { s with flow := .onward } else .error { s with flow := .nextRound (n - 1) }
  | .left n => .error { s with flow := if n ≤ 1 then .onward else .left (n - 1) }
  | _ => .error s

/-- Carries out a loop with a condition. The fuel bounds the rounds. -/
def rounds (inner : Inner) (isUntil : Bool) (test body : List Command) : Nat → State → State
  | 0, s => s
  | fuel + 1, s =>
    let number := s.last
    let s := tested inner s test
    if !s.isOnward then
      match afterRound s with
      | .ok s | .error s => s
    else if (s.last == 0) == isUntil then s.gives number
    else
      match afterRound (inner body s) with
      | .ok s => rounds inner isUntil test body fuel s
      | .error s => s

def overValues (inner : Inner) (name : List Char) (body : List Command) :
    List (List Char) → State → State
  | [], s => s
  | value :: rest, s =>
    match afterRound (inner body (s.assign name value)) with
    | .ok s => overValues inner name body rest s
    | .error s => s

def matchesOne (inner : Inner) (subject : List Char) : List Word → State → State × Bool
  | [], s => (s, false)
  | pattern :: rest, s =>
    let (s, marked) := expandMarked inner s pattern
    if (Pattern.ofMarked marked).isMatch subject then (s, true) else matchesOne inner subject rest s

/-- Carries out the first case that matches. -/
def firstMatch (inner : Inner) (subject : List Char) : List Case → State → State
  | [], s => s.gives 0
  | .mk patterns body :: rest, s =>
    let (s, found) := matchesOne inner subject patterns s
    if found then inner body (s.gives 0) else firstMatch inner subject rest s

def roundLimit : Nat := 100000

def looping (s : State) (loop : State → State) : State :=
  { loop { s with loops := s.loops + 1 } with loops := s.loops }

def step (inner : Inner) (s : State) : Command → State
  | .simple line words rs => checked (handled inner (simpleCommand inner s line words rs))
  | .redirected body rs => underRedirections inner s rs (inner [body])
  | .group body => inner body s
  | .apart body => checked (s.rejoined (finished inner (inner body { s with traps := [] })))
  | .branch test yes no =>
    let s := tested inner s test
    if !s.isOnward then s else if s.last == 0 then inner yes s else inner no (s.gives 0)
  | .loop isUntil test body => looping (s.gives 0) (rounds inner isUntil test body roundLimit)
  | .each name words body =>
    let (s, values) := expandAll inner s words
    if s.isOnward then looping (s.gives 0) (overValues inner name body values) else s
  | .choice subject cases =>
    let (s, text) := expandOne inner s subject
    if s.isOnward then firstMatch inner text cases s else s
  | .define name body => { s.gives 0 with functions := bind name body s.functions }
  | .pipeline parts => checked (pipe inner s parts)
  | .inverted body =>
    let s := tested inner s [body]
    if s.isOnward then s.tells (s.last != 0) else s
  | .both first second =>
    let s := tested inner s [first]
    if s.isOnward && s.last == 0 then inner [second] s else s
  | .either first second =>
    let s := tested inner s [first]
    if s.isOnward && s.last != 0 then inner [second] s else s
  | .background body => (s.rejoined (inner [body] s)).gives 0
  | .broken line message => { s with line }.dies ("Syntax error: " ++ message)

/-- Carries out commands one after the other, as long as the script goes on and is not only read. -/
def runAll : Nat → Inner
  | 0, _, s => s.ends (.code 2)
  | fuel + 1, commands, s =>
    commands.foldl (fun s c =>
      if s.isOnward && !s.options.onlyReads then step (runAll fuel) s c else s) s

def depthLimit : Nat := 2000

def run : Inner := runAll depthLimit

end CompileDesk.Script
