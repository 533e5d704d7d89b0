import CompileDesk.Script.Builtin

/-! # Standard programs

Every system has these programs. They work on the state of whoever started them: its files, its input and its
streams. A program that does not know an option says so and does nothing else.
-/

namespace CompileDesk.Program

open Script

def knownOptions (program : String) : List Char :=
  (match program with
    | "basename" => "asz"
    | "cat" => "AbeEnstTuv"
    | "chmod" => "cfvRrwxXst0123456789"
    | "cp" => "abdfHiLlnPpRrSstTuvxZ"
    | "dirname" => "z"
    | "env" => "0iCSuv"
    | "head" => "cnqvz0123456789"
    | "ls" => "1AadF"
    | "mkdir" => "mpvZ"
    | "mv" => "bfinStTuvZ"
    | "rm" => "dfiIrRv"
    | "rmdir" => "pv"
    | "tail" => "cFfnqsvz0123456789"
    | "tee" => "aip"
    | "touch" => "acdfhmrt"
    | "wc" => "cLlmw"
    | _ => "").toList

def withoutOptionsAtAll : List String := ["true", "false", "echo", "printf", "test"]

def isOption (a : List Char) : Bool := a.head? == some '-' && a.length > 1

/-- The programs whose options end at the first argument that is none. -/
def withOptionsFirst : List String := ["basename", "dirname", "env"]

def takesValue (program : String) (c : Char) : Bool :=
  (program == "head" || program == "tail") && (c == 'n' || c == 'c')

/-- The letters in an argument that gives options, up to one that takes the rest as its value. -/
def lettersOf (program : String) (a : List Char) : List Char :=
  let (letters, rest) := (a.drop 1).span fun c => !takesValue program c
  letters ++ rest.take 1

def beforeDashes (args : List (List Char)) : List (List Char) := args.takeWhile (· != ['-', '-'])

/-- The first letter of an option that a program does not know. -/
def unknownOption? (program : String) (args : List (List Char)) : Option Char :=
  if withoutOptionsAtAll.contains program then none
  else
    let front := beforeDashes args
    let options := if withOptionsFirst.contains program then front.takeWhile isOption else front.filter isOption
    options.findSome? fun a => (lettersOf program a).find? fun c => !(knownOptions program).contains c

def takenApart (args : List (List Char)) : List Char × List (List Char) :=
  let front := beforeDashes args
  ((front.filter isOption).flatMap (·.drop 1),
    front.filter (fun a => !isOption a) ++ args.drop (front.length + 1))

/-- A text in quotes, as programs show it. -/
def quoted (path : List Char) : String := "'" ++ String.ofList path ++ "'"

def failing (s : State) (message : String) : State :=
  (s.complain (String.ofList s.name ++ ": " ++ message)).gives 1

def misused (s : State) (message : String) : State :=
  failing s (message ++ "\nTry '" ++ String.ofList s.name ++ " --help' for more information.")

def changingEach (s : State) (complaint : List Char → String) (args : List (List Char))
    (change : FileTree → String → Except IoError FileTree) : State :=
  args.foldl (fun s a =>
    match change s.files (s.path a) with
    | .ok files => { s with files }
    | .error e => failing s (complaint a ++ ": " ++ e.reason)) (s.gives 0)

def changing (s : State) (complaint : String) (args : List (List Char))
    (change : FileTree → String → Except IoError FileTree) : State :=
  if args.isEmpty then misused s "missing operand"
  else changingEach s (fun a => complaint ++ " " ++ quoted a) args change

/-- The content of a file that is named, or the input for a single dash. -/
def contentOf (s : State) (path : List Char) : Except IoError (List UInt8 × State) :=
  if path == ['-'] then .ok (s.input, { s with input := [] })
  else (s.files.readBytes (s.path path)).map fun bytes => (bytes.toList, s)

/-- Works on the contents of files one after the other; on the input when none is named. -/
def overContents (s : State) (paths : List (List Char))
    (work : State → List Char → List UInt8 → State) : State :=
  (if paths.isEmpty then [['-']] else paths).foldl (fun s path =>
    match contentOf s path with
    | .ok (bytes, s) => work s path bytes
    | .error e => failing s (String.ofList path ++ ": " ++ e.reason)) (s.gives 0)

/-- Removes what is at a path; folders only if the program is told so. -/
def removing (folders : Bool) (t : FileTree) (path : String) : Except IoError FileTree :=
  (t.find path).bind fun
    | (place, .folder) => if folders then .ok (t.erase place) else .error .isAFolder
    | (place, _) => .ok (t.erase place)

/-- Where copying to a target puts a file: under its own name if the target is a folder. -/
def destination (s : State) (source target : List Char) : String :=
  let path := s.path target
  if s.files.isFolder path then Path.join path ((Path.fileName? (String.ofList source)).getD "")
  else path

/-- Copies a file, and removes the source if it is moved. -/
def copying (s : State) (moves : Bool) (source target : List Char) : State :=
  match s.files.readBytes (s.path source) with
  | .error e => failing s ("cannot stat " ++ quoted source ++ ": " ++ e.reason)
  | .ok bytes =>
    match s.files.writeBytes (destination s source target) bytes with
    | .error e => failing s ("cannot create regular file " ++ quoted target ++ ": " ++ e.reason)
    | .ok files =>
      { s.gives 0 with files := if moves then (files.remove (s.path source)).toOption.getD files else files }

def occurrences (b : UInt8) (bytes : List UInt8) : Nat := (bytes.filter (· == b)).length

/-- The counts that `wc` is asked for, of some bytes. -/
def counts (options : List Char) (bytes : List UInt8) : List Nat :=
  let counted := [('l', occurrences 10 bytes), ('w', (Text.words (textOf bytes)).length),
    ('c', bytes.length)]
  (counted.filter fun c => options.isEmpty || options.contains c.1).map Prod.snd

def countsLine (options path : List Char) (bytes : List UInt8) : List Char :=
  let digits := (counts options bytes).map Text.decimal
  let width := if options.length = 1 then 0 else 7
  let shown := digits.map fun d => List.replicate (width - d.length) ' ' ++ d
  (shown.intersperse [' ']).flatten ++ (if path == ['-'] then [] else ' ' :: path) ++ ['\n']

def byteLines (bytes : List UInt8) : List (List UInt8) :=
  bytes.foldr (fun b lines =>
    match lines with
    | line :: rest => if b == 10 then [b] :: lines else (b :: line) :: rest
    | [] => [[b]]) []

/-- How much of a file `head` and `tail` show: a number of bytes or lines. With a sign it is the other part
that is counted: `head` leaves out as many at the end, `tail` begins there. -/
structure Extent where
  inBytes : Bool
  signed : Bool
  count : Nat

def Extent.ofText (inBytes : Bool) (n : List Char) : Extent :=
  match n with
  | '+' :: n | '-' :: n => ⟨inBytes, true, Text.natural n⟩
  | n => ⟨inBytes, false, Text.natural n⟩

/-- The extent that arguments give, ten lines if they give none, and the paths of the files. -/
def extent : List (List Char) → Extent × List (List Char)
  | ['-', 'n'] :: n :: paths => (.ofText false n, paths)
  | ['-', 'c'] :: n :: paths => (.ofText true n, paths)
  | ('-' :: 'n' :: n) :: paths => (.ofText false n, paths)
  | ('-' :: 'c' :: n) :: paths => (.ofText true n, paths)
  | ('-' :: c :: n) :: paths => (.ofText false (c :: n), paths)
  | paths => (⟨false, false, 10⟩, paths)

def Extent.of {α : Type} (e : Extent) (atEnd : Bool) (all : List α) : List α :=
  match atEnd, e.signed with
  | false, false => all.take e.count
  | false, true => all.take (all.length - e.count)
  | true, false => all.drop (all.length - e.count)
  | true, true => all.drop (e.count - 1)

/-- The first or the last bytes or lines. -/
def excerpt (atEnd : Bool) (e : Extent) (bytes : List UInt8) : List UInt8 :=
  if e.inBytes then e.of atEnd bytes else (e.of atEnd (byteLines bytes)).flatten

/-- Arguments in one line, with escapes and the end of the line if that is asked for. -/
def line (lineEnd escapes : Bool) (args : List (List Char)) : List UInt8 :=
  let text := (args.intersperse [' ']).flatten
  let (out, ended) := if escapes then unescaped (text.length + 1) text else (bytesOf text, false)
  if ended || !lineEnd then out else out ++ [10]

/-- The output of the program `echo`, which takes options for the end of the line and for escapes. -/
def echoed (lineEnd escapes : Bool) : List (List Char) → List UInt8
  | ('-' :: c :: more) :: rest =>
    let letters := c :: more
    if letters.all fun c => c == 'n' || c == 'e' || c == 'E' then
      let choice := letters.reverse.find? (· != 'n')
      echoed (lineEnd && !letters.contains 'n') ((choice.map (· == 'e')).getD escapes) rest
    else line lineEnd escapes (('-' :: letters) :: rest)
  | args => line lineEnd escapes args

/-- Keeps what `head` did not take of the input; it takes only as many bytes as it shows. -/
def keeping (e : Extent) (path : List Char) (bytes : List UInt8) (s : State) : State :=
  if e.inBytes && path == ['-'] then { s with input := bytes.drop e.count } else s

/-- The names in a folder that `ls` shows. -/
def listed (options : List Char) (t : FileTree) (path : String) : List String :=
  let names := t.namesIn path
  if options.contains 'a' then "." :: ".." :: names
  else if options.contains 'A' then names
  else names.filter fun name => name.toList.head? != some '.'

def listing (s : State) (options : List Char) (paths : List (List Char)) : State :=
  let paths := (if paths.isEmpty then [['.']] else paths).map String.ofList
  let at? (p : String) : Option Entry := s.files.at? (s.path p.toList)
  let isFolder (p : String) : Bool := s.files.isFolder (s.path p.toList) && !options.contains 'd'
  let missing := paths.filter fun p => (at? p).isNone
  let files := (paths.filter fun p => (at? p).isSome && !isFolder p).mergeSort
  let folders := (paths.filter isFolder).mergeSort
  let lines (names : List String) : String := String.join (names.map (· ++ "\n"))
  let texts := folders.map fun p =>
    (if paths.length = 1 then "" else p ++ ":\n") ++ lines (listed options s.files (s.path p.toList))
  let text := Text.joined "\n" ((if files.isEmpty then [] else [lines files]) ++ texts)
  let s := missing.foldl (fun s p =>
    failing s ("cannot access " ++ quoted p.toList ++ ": " ++ IoError.notFound.reason)) s
  (s.print text.toList).gives (if missing.isEmpty then 0 else 2)

/-- Whether files with a mode can be run, if the mode says so. -/
def executableBy? (mode : List Char) : Option Bool :=
  if !mode.isEmpty && mode.all isOctal then some (mode.any fun c => Text.digitValue c % 2 = 1)
  else if mode.contains 'x' then some (!mode.contains '-')
  else none

def changingMode (s : State) (args : List (List Char)) : State :=
  let isOtherOption (a : List Char) : Bool := isOption a && a.any fun c => "cfvR".toList.contains c
  match args.filter fun a => !isOtherOption a with
  | [] => misused s "missing operand"
  | [mode] => misused s ("missing operand after " ++ quoted mode)
  | mode :: paths =>
    changing s "cannot access" paths fun t path =>
      match executableBy? mode with
      | some executable => t.setExecutable executable path
      | none => (t.find path).map fun _ => t

/-- Whether a text is a length of time: a number, and perhaps the letter of a unit. -/
def isInterval (a : List Char) : Bool :=
  let digits := if (a.getLast?.map fun c => "smhd".toList.contains c).getD false then a.dropLast else a
  let (whole, rest) := digits.span (· != '.')
  digits.any Text.isDigit && whole.all Text.isDigit && (rest.drop 1).all Text.isDigit

def sleeping (s : State) (intervals : List (List Char)) : State :=
  match intervals, intervals.find? fun a => !isInterval a with
  | [], _ => misused s "missing operand"
  | _, some a => misused s ("invalid time interval " ++ quoted a)
  | _, none => s.gives 0

def makingFolders (s : State) (options : List Char) (paths : List (List Char)) : State :=
  changing s "cannot create directory" paths
    (if options.contains 'p' then FileTree.makeFolders else FileTree.makeFolder)

def branching (s : State) (options : List Char) (paths : List (List Char)) : State :=
  let bytes := s.input
  changingEach ({ s with input := [] }.write 1 bytes) String.ofList paths fun t path =>
    let before := if options.contains 'a' then (t.readBytes path).toOption.getD .empty else .empty
    t.writeBytes path (before ++ ⟨bytes.toArray⟩)

/-- The last name of a path, without an ending unless that is all of it. -/
def lastName (path : List Char) (ending : List Char) : List Char :=
  let name := (Path.fileName? (String.ofList path)).getD (String.ofList path)
  let name := name.toList
  if ending.isSuffixOf name && ending != name then name.take (name.length - ending.length) else name

def carriedOut (program : String) (args : List (List Char)) (s : State) : State :=
  let (options, operands) := takenApart args
  match program with
  | "false" => s.gives 1
  | "echo" => (s.write 1 (echoed true false args)).gives 0
  | "cat" => overContents s operands fun s _ bytes => s.write 1 bytes
  | "rm" =>
    let present := operands.filter fun p => !options.contains 'f' || s.files.pathExists (s.path p)
    if options.contains 'f' && present.isEmpty then s.gives 0
    else changing s "cannot remove" present (removing (options.any fun c => c == 'r' || c == 'R'))
  | "touch" =>
    if operands.isEmpty then misused s "missing file operand"
    else changing s "cannot touch" operands fun t path =>
      if t.pathExists path then .ok t else t.openToAppend path
  | "chmod" => changingMode s args
  | "ls" => listing s options operands
  | "mkdir" => makingFolders s options operands
  | "rmdir" => changing s "failed to remove" operands FileTree.removeFolder
  | "cp" | "mv" =>
    match operands with
    | [] => misused s "missing file operand"
    | [source] => misused s ("missing destination file operand after " ++ quoted source)
    | source :: targets => copying s (program == "mv") source (targets.getLastD [])
  | "wc" => overContents s operands fun s path bytes => s.print (countsLine options path bytes)
  | "head" | "tail" =>
    let (how, paths) := extent args
    overContents s paths fun s path bytes =>
      let shown := s.write 1 (excerpt (program == "tail") how bytes)
      if program == "head" then keeping how path bytes shown else shown
  | "tee" => branching s options operands
  | "sleep" => sleeping s operands
  | "basename" =>
    match operands with
    | [] => misused s "missing operand"
    | path :: rest => (s.print (lastName path (rest.headD []) ++ ['\n'])).gives 0
  | "dirname" =>
    match operands with
    | [] => misused s "missing operand"
    | path :: _ =>
      let parent := ((Path.parent? (String.ofList path)).getD "/").toList
      (s.print ((if parent.isEmpty then ['.'] else parent) ++ ['\n'])).gives 0
  | "env" =>
    (failing s (quoted (args.headD []) ++ ": " ++ IoError.notFound.reason)).gives 127
  | _ => (builtin? program args s).getD (s.gives 0)

def standard (program : String) (args : List (List Char)) (s : State) : State :=
  match unknownOption? program args with
  | some c =>
    (misused s ("invalid option -- '" ++ c.toString ++ "'")).gives (if program == "env" then 125 else 1)
  | none => carriedOut program args s

end CompileDesk.Program
