import CompileDesk.Toml.Document
import CompileDesk.Toml.Reader
import CompileDesk.Toml.Scalar

/-! # What a TOML text says

The statements of a text are taken one after the other, and the first fault decides. Keys and values have
to stand for something, no key may be bound twice, and the way to the last part of a key may not be too
long.
-/

namespace CompileDesk.Toml

inductive Fault where
  | malformed
  | tooDeep
  deriving DecidableEq, Repr

/-- The wording of a fault; of a malformed text it is the opening of a longer report. -/
def Fault.message : Fault → String
  | malformed => "TOML parse error"
  | tooDeep => "recursion limit\n"

/-- A value that a malformed text does not have. -/
def wellFormed {α : Type} : Option α → Except Fault α
  | some a => .ok a
  | none => .error .malformed

/-- How many parts a key must not have in front of its last one. -/
def pathLimit : Nat := 80

/-- What following a path gives, unless the path is too long. -/
def along {α : Type} (path : List String) (result : Option α) : Except Fault α :=
  if pathLimit ≤ path.length then .error .tooDeep else wellFormed result

/-- The content of a string, given the text after its opening quotes; the closing quotes end the text. -/
def Style.content? (style : Style) (s : List Char) : Option (List Char) :=
  let read := match style with
    | basic => readBasic? (s.length + 1) s
    | literal => readLiteral? s
    | longBasic => readLongBasic? (s.length + 1) (dropLineEnd s)
    | longLiteral => readLongLiteral? (s.length + 1) (dropLineEnd s)
  match read with
  | some (content, []) => some content
  | _ => none

def Lexeme.name? : Lexeme → Option String
  | bare text => if text.all isBareChar then some (String.ofList text) else none
  | quoted style text =>
    match style with
    | .basic | .literal => (style.content? text).map String.ofList
    | .longBasic | .longLiteral => none

def Lexeme.value? : Lexeme → Option Toml
  | bare text => scalar? text
  | quoted style text => (style.content? text).map fun content => .string (String.ofList content)

def Key.names (k : Key) : Except Fault (List String × String) :=
  wellFormed do
    let path ← k.path.mapM Lexeme.name?
    let last ← k.last.name?
    some (path, last)

mutual

def Form.value : Form → Except Fault Toml
  | .plain lexeme => wellFormed lexeme.value?
  | .array items => (itemValues items).map .array
  | .table entries => (entryValues entries []).map fun nodes => .table (finishEntries nodes [])

def itemValues : List Form → Except Fault (List Toml)
  | [] => .ok []
  | form :: rest => form.value.bind fun v => (itemValues rest).map (v :: ·)

def entryValues : List (Key × Form) → Nodes → Except Fault Nodes
  | [], nodes => .ok nodes
  | (key, form) :: rest, nodes =>
    key.names.bind fun (path, last) =>
      form.value.bind fun v => (along path (bind? path last v nodes)).bind (entryValues rest)

end

structure Draft where
  root : Nodes := []
  opened : List String := []

def Draft.add (d : Draft) : Statement → Except Fault Draft
  | .binding key form =>
    key.names.bind fun (path, last) =>
      form.value.bind fun v =>
        (along path (changeOpened d.opened (bind? path last v) d.root)).map fun root => { d with root }
  | .header key =>
    key.names.bind fun (path, last) =>
      (along path (openTable? path last d.root)).map (⟨·, path ++ [last]⟩)
  | .element key =>
    key.names.bind fun (path, last) =>
      (along path (openElement? path last d.root)).map (⟨·, path ++ [last]⟩)

def parse (text : String) : Except Fault Table :=
  (wellFormed (statements? text)).bind fun statements =>
    (statements.foldlM Draft.add {}).map fun d => finishEntries d.root []

/-! ## The sizes of integers -/

mutual

def allIntegers (p : Int → Bool) : Toml → Bool
  | .integer n => p n
  | .array items => allIntegersIn p items
  | .table entries => allIntegersOf p entries
  | _ => true

def allIntegersIn (p : Int → Bool) : List Toml → Bool
  | [] => true
  | v :: rest => allIntegers p v && allIntegersIn p rest

def allIntegersOf (p : Int → Bool) : List (String × Toml) → Bool
  | [] => true
  | (_, v) :: rest => allIntegers p v && allIntegersOf p rest

end

def fitsWord (n : Int) : Bool := -9223372036854775808 ≤ n && n < 9223372036854775808

/-- Whether an integer has at most 128 bits, with or without a sign. -/
def fitsWide (n : Int) : Bool :=
  -170141183460469231731687303715884105728 ≤ n && n < 340282366920938463463374607431768211456

end CompileDesk.Toml
