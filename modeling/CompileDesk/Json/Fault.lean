import CompileDesk.Text.Natural

/-! # Faults in JSON text

A fault carries the text that was unread when it was found and how many bytes beyond it were
already looked at. Its place follows from those two and the whole text: lines count from one, and
the column is the number of bytes since the last line feed.
-/

namespace CompileDesk.Json

inductive Fault where
  | endInValue
  | endInList
  | endInObject
  | endInString
  | expectedValue
  | expectedIdent
  | expectedColon
  | expectedListEnd
  | expectedObjectEnd
  | keyNotString
  | trailingComma
  | trailingCharacters
  | invalidNumber
  | numberOutOfRange
  | invalidEscape
  | unpairedLeading
  | unpairedTrailing
  | controlCharacter
  | tooDeep
  deriving DecidableEq, Repr

def Fault.message : Fault → String
  | endInValue => "EOF while parsing a value"
  | endInList => "EOF while parsing a list"
  | endInObject => "EOF while parsing an object"
  | endInString => "EOF while parsing a string"
  | expectedValue => "expected value"
  | expectedIdent => "expected ident"
  | expectedColon => "expected `:`"
  | expectedListEnd => "expected `,` or `]`"
  | expectedObjectEnd => "expected `,` or `\x7d`"
  | keyNotString => "key must be a string"
  | trailingComma => "trailing comma"
  | trailingCharacters => "trailing characters"
  | invalidNumber => "invalid number"
  | numberOutOfRange => "number out of range"
  | invalidEscape => "invalid escape"
  | unpairedLeading => "unexpected end of hex escape"
  | unpairedTrailing => "lone leading surrogate in hex escape"
  | controlCharacter => "control character (\\u0000-\\u001F) found while parsing a string"
  | tooDeep => "recursion limit exceeded"

/-- A fault and its place: the unread text and the bytes of it that were looked at. -/
structure Failure where
  fault : Fault
  unread : List Char
  ahead : Nat
  deriving DecidableEq, Repr

structure Place where
  line : Nat
  column : Nat
  deriving DecidableEq, Repr

def Place.next (p : Place) (c : Char) : Place :=
  if c == '\n' then ⟨p.line + 1, 0⟩ else ⟨p.line, p.column + c.utf8Size⟩

/-- The place after so many more bytes of the text, never beyond its end. -/
def Place.advance (p : Place) : Nat → List Char → Place
  | 0, _ => p
  | _, [] => p
  | bytes, c :: rest =>
    if c.utf8Size ≤ bytes then (p.next c).advance (bytes - c.utf8Size) rest
    else ⟨p.line, p.column + bytes⟩
termination_by _ s => s.length

def Failure.place (text : List Char) (f : Failure) : Place :=
  let before := text.take (text.length - f.unread.length)
  (before.foldl Place.next ⟨1, 0⟩).advance f.ahead f.unread

def Failure.message (text : List Char) (f : Failure) : String :=
  let place := f.place text
  f.fault.message ++ " at line " ++ Text.ofNat place.line ++ " column " ++ Text.ofNat place.column

/-- What a reader of a part of the text gives: the part and the text after it, or a failure. -/
abbrev Reading (α : Type) := Except Failure (α × List Char)

def Reading.andThen {α β : Type} (r : Reading α) (next : α → List Char → Except Failure β) :
    Except Failure β :=
  match r with
  | .ok (a, after) => next a after
  | .error f => .error f

@[simp] theorem Reading.andThen_ok {α β : Type} (a : α) (after : List Char)
    (next : α → List Char → Except Failure β) :
    Reading.andThen (.ok (a, after)) next = next a after := rfl

def failAhead {α : Type} (fault : Fault) (unread : List Char) : Except Failure α :=
  .error ⟨fault, unread, 1⟩

def failHere {α : Type} (fault : Fault) (unread : List Char) : Except Failure α :=
  .error ⟨fault, unread, 0⟩

end CompileDesk.Json
