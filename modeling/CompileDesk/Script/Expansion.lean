import CompileDesk.Script.Arithmetic
import CompileDesk.Script.Pattern
import CompileDesk.Script.State

/-! # Expansion of words

A word gives fields. What expansions give is split at separators unless it is quoted, and a field that is a
pattern gives the paths that it matches, if there are any. A missing value can end the script.
-/

namespace CompileDesk.Script

abbrev Inner := List Command → State → State

abbrev Field := List Marked

/-- The fields that a word has given so far: the finished ones and the one under way, if any. -/
structure Fields where
  done : List Field := []
  current : Option Field := none

namespace Fields

/-- Appends to the field under way, beginning one if need be. -/
def append (f : Fields) (s : List Char) (quoted : Bool) : Fields :=
  { f with current := some (f.current.getD [] ++ s.map fun c => (c, quoted)) }

def close (f : Fields) : Fields :=
  match f.current with
  | some field => ⟨f.done ++ [field], none⟩
  | none => f

/-- Appends a text that is split at separators; blank ones at the ends make no empty fields. -/
def split (separators : List Char) (f : Fields) (s : List Char) : Fields :=
  s.foldl (fun f c =>
    if !separators.contains c then f.append [c] false
    else if c == ' ' || c == '\t' || c == '\n' then f.close
    else { f with current := some (f.current.getD []) }.close) f

def appendAll (f : Fields) : List (List Char) → Fields
  | [] => f
  | [s] => f.append s true
  | s :: rest => (f.append s true).close.appendAll rest

def splitAll (separators : List Char) (f : Fields) : List (List Char) → Fields
  | [] => f
  | [s] => f.split separators s
  | s :: rest => (f.split separators s).close.splitAll separators rest

end Fields

def joinedText (f : Fields) : Field := (f.close.done.intersperse [(' ', false)]).flatten

/-- How a word is expanded: to fields, or to one text. -/
inductive Purpose where
  | fields
  | text
  deriving DecidableEq, Repr

def addText (s : State) (f : Fields) (p : Purpose) (quoted : Bool) (text : List Char) : Fields :=
  if quoted then f.append text true
  else match p with
    | .fields => f.split s.separators text
    | .text => f.append text false

def addArguments (s : State) (f : Fields) (p : Purpose) (quoted separate : Bool) : Fields :=
  match p, quoted with
  | .fields, true =>
    if separate then f.appendAll s.arguments
    else f.append (s.arguments.intersperse (s.separators.take 1)).flatten true
  | .fields, false => f.splitAll s.separators s.arguments
  | .text, _ => f.append (s.arguments.intersperse [' ']).flatten quoted

def lacks (s : State) (name message : List Char) : State :=
  s.dies (String.ofList (name ++ ": ".toList ++ message))

def addValue (s : State) (f : Fields) (p : Purpose) (quoted : Bool) (name : List Char) :
    State × Fields :=
  if name == ['@'] then (s, addArguments s f p quoted true)
  else if name == ['*'] then (s, addArguments s f p quoted false)
  else
    match s.value? name with
    | some value => (s, addText s f p quoted value)
    | none =>
      if s.options.demandsValues && name != ['!'] then (lacks s name "parameter not set".toList, f)
      else (s, addText s f p quoted [])

def unmarked (field : Field) : List Char := field.map Prod.fst

def textOfWord (n : Int64) : List Char := (Text.ofInt n.toInt).toList

def addNumber (s : State) (f : Fields) (p : Purpose) (quoted : Bool) (expression : List Char) :
    State × Fields :=
  match Arithmetic.evaluate s.value expression with
  | .ok (n, assigned) =>
    (assigned.foldr (fun (name, n) s => s.assign name (textOfWord n)) s,
      addText s f p quoted (textOfWord n))
  | .error e => (s.dies (e.message expression), f)

/-- What a modifier does with a value, when the operand has no part in it or is given as a field. -/
def modified (s : State) (f : Fields) (p : Purpose) (quoted : Bool) (name : List Char) (m : Modifier)
    (operand : Field) : State × Fields :=
  let value := s.value name
  match m with
  | .unknown => (s.dies "Bad substitution", f)
  | .length => (s, addText s f p quoted (Text.decimal (bytesOf value).length))
  | .withoutEnd longest =>
    (s, addText s f p quoted (Pattern.withoutEnd longest (Pattern.ofMarked operand) value))
  | .withoutStart longest =>
    (s, addText s f p quoted (Pattern.withoutStart longest (Pattern.ofMarked operand) value))
  | .orAssign _ => (s.assign name (unmarked operand), addText s f p quoted (unmarked operand))
  | .orFail ifEmpty =>
    let message := if operand.isEmpty then
        (if ifEmpty then "parameter not set or null" else "parameter not set").toList
      else unmarked operand
    (lacks s name message, f)
  | _ => addValue s f p quoted name

/-- Whether a modifier takes its operand in place of a value that may be missing. -/
def takesOperand (m : Modifier) (value : Option (List Char)) : Bool :=
  let isMissing (ifEmpty : Bool) : Bool := value.isNone || (ifEmpty && value == some [])
  match m with
  | .orElse ifEmpty | .orAssign ifEmpty | .orFail ifEmpty => isMissing ifEmpty
  | .instead ifEmpty => !isMissing ifEmpty
  | .withoutEnd _ | .withoutStart _ => true
  | .unknown | .value | .length => false

mutual

def addPiece (inner : Inner) (p : Purpose) (s : State) (f : Fields) : Piece → State × Fields
  | .text value quoted => (s, f.append value quoted)
  | .output body quoted =>
    let (s, bytes) := s.capturing (inner body)
    let text := (((textOf bytes).filter (· != '\x00')).reverse.dropWhile (· == '\n')).reverse
    (s, addText s f p quoted text)
  | .arithmetic expression quoted =>
    let (s, fields) := addPieces inner .text s {} expression
    addNumber s f p quoted (unmarked (joinedText fields))
  | .parameter name m operand quoted =>
    if !takesOperand m (s.value? name) then
      match m with
      | .unknown | .length => modified s f p quoted name m []
      | .instead _ => (s, addText s f p quoted [])
      | _ => addValue s f p quoted name
    else
      match m with
      | .orElse _ | .instead _ => addPieces inner p s f operand
      | _ =>
        let (s, fields) := addPieces inner .text s {} operand
        modified s f p quoted name m (joinedText fields)

/-- Adds pieces of a word, as long as none of them ends the script. -/
def addPieces (inner : Inner) (p : Purpose) (s : State) (f : Fields) : List Piece → State × Fields
  | [] => (s, f)
  | piece :: rest =>
    let (s, f) := addPiece inner p s f piece
    if s.isOnward then addPieces inner p s f rest else (s, f)

end

/-! ## Patterns that match paths -/

def isPattern (field : Field) : Bool :=
  field.any fun (c, quoted) => !quoted && (c == '*' || c == '?' || c == '[')

/-- The paths that match patterns of names, one after the other, below a path. -/
def matchingPaths (s : State) : List Char → List Field → List (List Char)
  | before, [] => if s.files.pathExists (s.path before) then [before] else []
  | before, part :: rest =>
    let after (name : List Char) : List Char :=
      before ++ name ++ if rest.isEmpty then [] else ['/']
    if isPattern part then
      let pattern := Pattern.ofMarked part
      let names := (s.files.namesIn (s.path (if before.isEmpty then ['.'] else before))).map String.toList
      let found := names.filter fun name =>
        pattern.isMatch name && (name.head? != some '.' || part.head?.map Prod.fst == some '.')
      found.flatMap fun name => matchingPaths s (after name) rest
    else matchingPaths s (after (unmarked part)) rest

def fieldTexts (s : State) (field : Field) : List (List Char) :=
  if isPattern field && !s.options.keepsPatterns then
    match matchingPaths s [] (field.splitOnP fun c => c.1 == '/') with
    | [] => [unmarked field]
    | found => found
  else [unmarked field]

/-- A word in which a tilde at the front is the home folder. -/
def withHome (s : State) (w : Word) : Word :=
  match bareStart w, s.value? "HOME".toList with
  | '~' :: rest, some home =>
    let after := withoutBare 1 w
    let isAlone := after.all fun
      | .text [] false => true
      | _ => false
    if rest.head? == some '/' || isAlone then .text home true :: after else w
  | _, _ => w

def expandAll (inner : Inner) (s : State) : List Word → State × List (List Char)
  | [] => (s, [])
  | w :: rest =>
    let (s, f) := addPieces inner .fields s {} (withHome s w)
    if !s.isOnward then (s, [])
    else
      let (s, more) := expandAll inner s rest
      (s, f.close.done.flatMap (fieldTexts s) ++ more)

def expandMarked (inner : Inner) (s : State) (w : Word) : State × Field :=
  let (s, f) := addPieces inner .text s {} (withHome s w)
  (s, joinedText f)

def expandOne (inner : Inner) (s : State) (w : Word) : State × List Char :=
  let (s, field) := expandMarked inner s w
  (s, unmarked field)

end CompileDesk.Script
