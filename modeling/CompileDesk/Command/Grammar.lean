import CompileDesk.Text.Blank

/-! # Command lines

A command line is a sequence of words. What a command understands is a grammar: its options, the words
it takes as operands, and its subcommands. An option that takes a value takes it from the next word or
from the same word after an equals sign. After two dashes all words are operands.
-/

namespace CompileDesk

/-- An option of a command. With the name of a value it takes one; else it is a switch. -/
structure CommandOption where
  long : String
  short : Option Char := none
  value : Option String := none
  mayBeEmpty : Bool := true
  deriving DecidableEq, Repr

def CommandOption.shown (o : CommandOption) : String :=
  match o.value with
  | some name => "--" ++ o.long ++ " <" ++ name ++ ">"
  | none => "--" ++ o.long

structure Operand where
  name : String
  mayBeEmpty : Bool := true
  deriving DecidableEq, Repr

def Operand.shown (o : Operand) : String := "<" ++ o.name ++ ">"

/-- What a command understands. All operands are needed, and so are the needed options; the joined
options are given together or not at all. -/
inductive Grammar where
  | mk (options : List CommandOption) (operands : List Operand) (needed : List String)
    (joined : List String) (commands : List (String × Grammar))

namespace Grammar

def options : Grammar → List CommandOption
  | mk options _ _ _ _ => options

def operands : Grammar → List Operand
  | mk _ operands _ _ _ => operands

def needed : Grammar → List String
  | mk _ _ needed _ _ => needed

def joined : Grammar → List String
  | mk _ _ _ joined _ => joined

def commands : Grammar → List (String × Grammar)
  | mk _ _ _ _ commands => commands

def command? (g : Grammar) (name : String) : Option Grammar := g.commands.lookup name

def helpWord : String := "help"

/-- Whether a word is the name of a subcommand or asks for help on one. -/
def knows (g : Grammar) (word : String) : Bool :=
  (g.command? word).isSome || (word == helpWord && !g.commands.isEmpty)

def long? (g : Grammar) (name : String) : Option CommandOption := g.options.find? (·.long == name)

def short? (g : Grammar) (c : Char) : Option CommandOption := g.options.find? (·.short == some c)

end Grammar

inductive UsageError where
  | unexpectedArgument (word : String)
  | unknownCommand (word : String)
  | missingValue (shown : String)
  | surplusValue (value shown : String)
  | repeated (shown : String)
  | missingArguments
  deriving DecidableEq, Repr

/-- The first line of the message about a refused command line. -/
def UsageError.message : UsageError → String
  | unexpectedArgument word => "error: unexpected argument '" ++ word ++ "' found"
  | unknownCommand word => "error: unrecognized subcommand '" ++ word ++ "'"
  | missingValue shown => "error: a value is required for '" ++ shown ++ "' but none was supplied"
  | surplusValue value shown =>
    "error: unexpected value '" ++ value ++ "' for '" ++ shown ++ "' found; no more were expected"
  | repeated shown => "error: the argument '" ++ shown ++ "' cannot be used multiple times"
  | missingArguments => "error: the following required arguments were not provided:"

/-- Why reading a command line ended early: it is refused, or it asks for the help text or the version. -/
inductive Halt where
  | refused (error : UsageError)
  | help
  | version
  deriving DecidableEq, Repr

/-- What a command line says: the subcommands from the outside in, the options with their values, where
a switch has none, and the operands of the innermost command. -/
structure Parsed where
  path : List String := []
  options : List (String × String) := []
  operands : List String := []
  deriving DecidableEq, Repr

/-- The value of an option; the innermost command has the last word. -/
def Parsed.option? (p : Parsed) (name : String) : Option String :=
  p.options.reverse.lookup name

def Parsed.has (p : Parsed) (name : String) : Bool := (p.option? name).isSome

namespace Grammar

/-- What was read last and is not yet taken over. -/
inductive Pending where
  | nothing
  | option (option : CommandOption) (value : Option String)
  | operand (operand : Operand) (value : String)

structure Level where
  options : List (String × String) := []
  operands : List String := []
  pending : Pending := .nothing
  onlyOperands : Bool := false

namespace Level

/-- Takes over a switch or an option with its value. An option is taken once, and its value may have to
be something. -/
def store (l : Level) (o : CommandOption) (value : String) : Except Halt Level :=
  if (l.options.lookup o.long).isSome then .error (.refused (.repeated o.shown))
  else if o.value.isSome && value.isEmpty && !o.mayBeEmpty then
    .error (.refused (.missingValue o.shown))
  else .ok { l with options := l.options ++ [(o.long, value)], pending := .nothing }

def settled (l : Level) : Except Halt Level :=
  match l.pending with
  | .nothing => .ok l
  | .option o none => .error (.refused (.missingValue o.shown))
  | .option o (some value) => l.store o value
  | .operand o value =>
    if value.isEmpty && !o.mayBeEmpty then .error (.refused (.missingValue o.shown))
    else .ok { l with pending := .nothing }

/-- Takes over a switch. Those for the help text and the version end the reading. -/
def takeSwitch (l : Level) (o : CommandOption) : Except Halt Level :=
  l.settled.bind fun l =>
    if o.long = "help" then .error .help
    else if o.long = "version" then .error .version
    else l.store o ""

def long (g : Grammar) (l : Level) (word : List Char) : Except Halt Level :=
  let (name, attached) := match Text.splitOnce ['='] word with
    | some (name, value) => (String.ofList name, some (String.ofList value))
    | none => (String.ofList word, none)
  match g.long? name with
  | none => .error (.refused (.unexpectedArgument ("--" ++ name)))
  | some o =>
    match o.value, attached with
    | none, none => l.takeSwitch o
    | none, some value => .error (.refused (.surplusValue value o.shown))
    | some _, some value => l.settled.bind fun l => l.store o value
    | some _, none => l.settled.map fun l => { l with pending := .option o none }

def short (g : Grammar) : Level → List Char → Except Halt Level
  | l, [] => .ok l
  | l, c :: rest =>
    match g.short? c with
    | none => .error (.refused (.unexpectedArgument (String.ofList ['-', c])))
    | some o => (l.takeSwitch o).bind fun l => short g l rest

def operand (g : Grammar) (l : Level) (word : String) : Except Halt Level :=
  match g.operands[l.operands.length]? with
  | some o =>
    l.settled.map fun l =>
      { l with operands := l.operands ++ [word], pending := .operand o word }
  | none =>
    if g.commands.isEmpty || (l.onlyOperands && g.knows word) then
      .error (.refused (.unexpectedArgument word))
    else .error (.refused (.unknownCommand word))

def awaits (l : Level) : Bool :=
  match l.pending with
  | .option _ none => true
  | _ => false

/-- Reads a word that is no subcommand. -/
def word (g : Grammar) (l : Level) (w : String) : Except Halt Level :=
  if l.onlyOperands then l.operand g w
  else
    match w.toList with
    | ['-', '-'] => .ok { l with onlyOperands := true }
    | '-' :: '-' :: rest => l.long g rest
    | '-' :: c :: rest => l.short g (c :: rest)
    | _ =>
      match l.pending with
      | .option o none => .ok { l with pending := .option o (some w) }
      | _ => l.operand g w

/-- What the words of a command say once all are read; nothing that is needed may be missing. -/
def finished (g : Grammar) (l : Level) : Except Halt Parsed :=
  l.settled.bind fun l =>
    let given (name : String) : Bool := (l.options.lookup name).isSome
    if l.operands.length < g.operands.length || !g.needed.all given ||
        (g.joined.any given && !g.joined.all given) then
      .error (.refused .missingArguments)
    else .ok ⟨[], l.options, l.operands⟩

end Level

/-- The command to which words after `help` lead. Asking for help is itself a command, without
subcommands. -/
def helpOn (g : Grammar) : List String → Except Halt Parsed
  | [] => .error .help
  | w :: rest =>
    if g.knows w then ((g.command? w).getD (.mk [] [] [] [] [])).helpOn rest
    else .error (.refused (.unknownCommand w))

def read (g : Grammar) : Level → List String → Except Halt Parsed
  | l, [] => l.finished g
  | l, w :: rest =>
    let inner := if l.onlyOperands || l.awaits then none else g.command? w
    match inner with
    | some command =>
      (command.read {} rest).bind fun parsed =>
        (l.finished g).map fun outer =>
          { parsed with path := w :: parsed.path, options := outer.options ++ parsed.options }
    | none =>
      if g.knows w && !l.onlyOperands && !l.awaits then g.helpOn rest
      else (l.word g w).bind fun l => g.read l rest

end Grammar
end CompileDesk
