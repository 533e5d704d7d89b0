import CompileDesk.Script.Source
import CompileDesk.Script.Syntax

/-! # Quoting

Which characters have a meaning of their own depends on where they stand: in a word, between double quotes, in the
operand of an expansion, or in a text that is taken as a whole. This module reads what needs no commands to be
read: escapes, quoted texts, names of parameters, and what is done with their values.
-/

namespace CompileDesk.Script

/-- Where pieces are read: in a word, between double quotes, as the operand of an expansion, or to the end of
a text. -/
inductive Mode where
  | word
  | double
  | operand (quoted : Bool)
  | text
  deriving DecidableEq, Repr

namespace Mode

def isQuoted : Mode → Bool
  | word => false
  | double | text => true
  | operand quoted => quoted

def isEnd (m : Mode) (c : Char) : Bool :=
  match m with
  | word => endsWord c
  | double => c == '"'
  | operand _ => c == '\x7d'
  | text => false

/-- The characters that lose their meaning after a backslash; none are listed where all do. -/
def escapable : Mode → Option (List Char)
  | word | operand false => none
  | text => some ['$', '`', '\\']
  | double => some ['$', '`', '\\', '"']
  | operand true => some ['$', '`', '\\', '"', '\x7d']

end Mode

def escaped (m : Mode) : Reader (List Piece) := do
  match (← get).rest with
  | [] => return [.text ['\\'] m.isQuoted]
  | '\n' :: _ => pass 1; return []
  | c :: _ =>
    match m.escapable with
    | none => pass 1; return [.text [c] true]
    | some special =>
      if special.contains c then do
        pass 1
        return [.text [c] true]
      else return [.text ['\\'] true]

def upToQuote (quote : Char) : Reader (List Char) := do
  let rest := (← get).rest
  let inside := rest.takeWhile (· != quote)
  if inside.length = rest.length then refuse "Unterminated quoted string"
  else
    pass (inside.length + 1)
    return inside

/-- The text up to two closing parentheses that match no open ones. -/
def upToTwoClosing : Nat → List Char → Option (List Char)
  | _, [] => none
  | 0, ')' :: ')' :: _ => some []
  | depth, c :: rest =>
    let deeper := if c == '(' then depth + 1 else if c == ')' then depth - 1 else depth
    (upToTwoClosing deeper rest).map (c :: ·)

/-- The text up to a backquote; a backslash protects a backquote, a dollar sign and itself, and a quote where
the whole is quoted. -/
def upToBackquote (quoted : Bool) : List Char → Option (List Char × Nat)
  | [] => none
  | '`' :: _ => some ([], 1)
  | '\\' :: c :: rest =>
    let isProtected := c == '`' || c == '$' || c == '\\' || (quoted && c == '"')
    (upToBackquote quoted rest).map fun (inside, count) =>
      (if isProtected then c :: inside else '\\' :: c :: inside, count + 2)
  | c :: rest => (upToBackquote quoted rest).map fun (inside, count) => (c :: inside, count + 1)

def parameterName : Reader (List Char) := do
  let rest := (← get).rest
  let name := match rest with
    | [] => []
    | c :: _ =>
      if Text.isDigit c then rest.takeWhile Text.isDigit
      else if isNameChar c then rest.takeWhile isNameChar
      else if "@*#?$!-".toList.contains c then [c]
      else []
  pass name.length
  return name

/-- Reads the sign of what is done with a parameter; without one the value is taken. -/
def modifier : Reader Modifier := do
  match (← get).rest with
  | ':' :: '-' :: _ => pass 2; return .orElse true
  | ':' :: '=' :: _ => pass 2; return .orAssign true
  | ':' :: '?' :: _ => pass 2; return .orFail true
  | ':' :: '+' :: _ => pass 2; return .instead true
  | '-' :: _ => pass 1; return .orElse false
  | '=' :: _ => pass 1; return .orAssign false
  | '?' :: _ => pass 1; return .orFail false
  | '+' :: _ => pass 1; return .instead false
  | '%' :: '%' :: _ => pass 2; return .withoutEnd true
  | '%' :: _ => pass 1; return .withoutEnd false
  | '#' :: '#' :: _ => pass 2; return .withoutStart true
  | '#' :: _ => pass 1; return .withoutStart false
  | '\x7d' :: _ => return .value
  | [] => refuse "Missing '\x7d'"
  | _ => return .unknown

/-- The name that a word assigns to, if it is an assignment. -/
def assignedName? (w : Word) : Option (List Char) :=
  let bare := bareStart w
  let name := bare.takeWhile (· != '=')
  if name.length < bare.length && isName name then some name else none

end CompileDesk.Script
