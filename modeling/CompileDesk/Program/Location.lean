import CompileDesk.Files.Operation

/-! # Finding programs

A command with a slash in it is the path of a program; any other command is looked for among the programs of
the system. A program is one of the system, or a file whose first line names the program that runs it, which
gets the path of the file as an argument; that program may be such a file in its turn, a few times over.
-/

namespace CompileDesk.Program

structure Located where
  program : String
  name : String
  arguments : List (List Char)
  bindings : List (List Char × List Char) := []

def isLineBlank (c : Char) : Bool := c == ' ' || c == '\t'

/-- How many bytes of a file are looked at for its first line. -/
def lineLimit : Nat := 256

/-- The program that the first line of a file names, and the one argument that may follow there. A line without
an end that names nothing stands for the folder itself; a name that may not be whole is none. -/
def interpreter? (content : ByteArray) : Option (String × Option String) :=
  match (Text.lenient (content.extract 0 lineLimit)).toList with
  | '#' :: '!' :: rest =>
    let whole := rest.takeWhile fun c => c != '\n' && c != '\x00'
    let line := whole.dropWhile isLineBlank
    let name := line.takeWhile fun c => !isLineBlank c
    let argument := (line.drop name.length).dropWhile isLineBlank
    let argument := (argument.reverse.dropWhile isLineBlank).reverse
    let isEnded := whole.length < rest.length
    if name.isEmpty then
      if isEnded || lineLimit ≤ content.size then none else some (".", none)
    else if name.length = line.length && !isEnded && lineLimit ≤ content.size then none
    else some (String.ofList name, if argument.isEmpty then none else some (String.ofList argument))
  | _ => none

def chainLimit : Nat := 6

def locateAt (t : FileTree) (folder : String) : Nat → String → List (List Char) →
    Except IoError Located
  | 0, _, _ => .error .tooManyTurns
  | fuel + 1, path, args =>
    match t.find (Path.join folder path) with
    | .error e => .error e
    | .ok (_, .program name) => .ok { program := name, name := path, arguments := args }
    | .ok (_, .file content true) =>
      match interpreter? content with
      | some (name, argument) =>
        locateAt t folder fuel name ((argument.map String.toList).toList ++ path.toList :: args)
      | none => .error .notAProgram
    | .ok _ => .error .permissionDenied

/-- Finds the program of a command. The names of folders that lead nowhere else are found in every folder of
programs, where they name no program. -/
def locate (t : FileTree) (folder command : String) (args : List (List Char)) :
    Except IoError Located :=
  if command.isEmpty then .error .notFound
  else if command.toList.contains '/' then locateAt t folder chainLimit command args
  else if FileTree.longestName < command.utf8ByteSize then .error .nameTooLong
  else if command == "." || command == ".." then .error .permissionDenied
  else if Entry.programs.contains command then .ok { program := command, name := command, arguments := args }
  else .error .notFound

/-- Takes variables for a program off the front of its arguments. -/
def withBindings (l : Located) : List (List Char) → Located
  | [] => { l with arguments := [] }
  | arg :: rest =>
    match Text.splitOnce ['='] arg with
    | some (name, value) => withBindings { l with bindings := (name, value) :: l.bindings } rest
    | none => { l with arguments := arg :: rest }

/-- The arguments of `env`, in which one that begins with `-S` stands for the words in it. -/
def splitArguments : List (List Char) → List (List Char)
  | ('-' :: 'S' :: line) :: rest => Text.words line ++ rest
  | args => args

/-- Finds the program that `env` starts, or stays with `env` if there is none. -/
def behindEnv (t : FileTree) (folder : String) : Nat → Located → Located
  | 0, l => l
  | fuel + 1, l =>
    if l.program = "env" then
      let found := withBindings l (splitArguments l.arguments)
      match found.arguments with
      | [] => { found with program := "true" }
      | command :: args =>
        match locate t folder (String.ofList command) args with
        | .ok next => behindEnv t folder fuel { next with bindings := found.bindings }
        | .error _ => found
    else l

end CompileDesk.Program
