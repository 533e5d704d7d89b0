import CompileDesk.Json.Scan

/-! # Reading JSON text

A text is one value with white space around it. Lists and objects may be nested 127 deep. Reading
fails at the first fault from the left; two values in a row, a comma before a closing bracket and a
key without quotes each have a fault of their own. The fuel of the recursion is twice the length of
the text, which no text can exhaust: every second call takes at least one character.
-/

namespace CompileDesk.Json

/-- How deep lists and objects may be nested, plus one. -/
def maxDepth : Nat := 128

mutual

def readValue : Nat → Nat → List Char → Reading Json
  | 0, _, s => failHere .endInValue s
  | fuel + 1, depth, s =>
    match skipSpace s with
    | [] => failHere .endInValue []
    | c :: rest =>
      if c == 'n' then
        (readLetters "ull".toList rest).map fun after => (.null, after)
      else if c == 't' then
        (readLetters "rue".toList rest).map fun after => (.bool true, after)
      else if c == 'f' then
        (readLetters "alse".toList rest).map fun after => (.bool false, after)
      else if c == '-' then
        (readNumber true rest).andThen fun n after => .ok (.number n, after)
      else if Text.isDigit c then
        (readNumber false (c :: rest)).andThen fun n after => .ok (.number n, after)
      else if c == '"' then
        (readString rest).andThen fun text after => .ok (.string text, after)
      else if c == '[' then
        if depth ≤ 1 then failAhead .tooDeep (c :: rest)
        else
          (readItems fuel (depth - 1) true rest).andThen fun items after =>
          .ok (.array items, after)
      else if c == '\x7b' then
        if depth ≤ 1 then failAhead .tooDeep (c :: rest)
        else
          (readFields fuel (depth - 1) true rest).andThen fun fields after =>
          .ok (.object fields, after)
      else failAhead .expectedValue (c :: rest)

def readItems : Nat → Nat → Bool → List Char → Reading (List Json)
  | 0, _, _, s => failHere .endInList s
  | fuel + 1, depth, first, s =>
    let item (t : List Char) : Reading (List Json) :=
      (readValue fuel depth t).andThen fun v after =>
      (readItems fuel depth false after).andThen fun vs after => .ok (v :: vs, after)
    match skipSpace s with
    | [] => failHere .endInList []
    | c :: rest =>
      if c == ']' then .ok ([], rest)
      else if first then item (c :: rest)
      else if c == ',' then
        match skipSpace rest with
        | [] => failHere .endInValue []
        | d :: more =>
          if d == ']' then failAhead .trailingComma (d :: more) else item (d :: more)
      else failAhead .expectedListEnd (c :: rest)

def readFields : Nat → Nat → Bool → List Char → Reading (List (String × Json))
  | 0, _, _, s => failHere .endInObject s
  | fuel + 1, depth, first, s =>
    let field (t : List Char) : Reading (List (String × Json)) :=
      (readString t).andThen fun name after =>
      match skipSpace after with
      | [] => failHere .endInObject []
      | d :: more =>
        if d == ':' then
          (readValue fuel depth more).andThen fun v after =>
          (readFields fuel depth false after).andThen fun vs after => .ok ((name, v) :: vs, after)
        else failAhead .expectedColon (d :: more)
    match skipSpace s with
    | [] => failHere .endInObject []
    | c :: rest =>
      if c == '\x7d' then .ok ([], rest)
      else if first then
        if c == '"' then field rest else failAhead .keyNotString (c :: rest)
      else if c == ',' then
        match skipSpace rest with
        | [] => failHere .endInValue []
        | d :: more =>
          if d == '"' then field more
          else if d == '\x7d' then failAhead .trailingComma (d :: more)
          else failAhead .keyNotString (d :: more)
      else failAhead .expectedObjectEnd (c :: rest)

end

/-- Fuel that no text of this length exhausts. -/
def fuelFor (s : List Char) : Nat := 2 * s.length + 2

/-- Reads a whole text, refusing anything but white space after its value. -/
def readText (s : List Char) : Except Failure Json :=
  (readValue (fuelFor s) maxDepth s).andThen fun v after =>
  match skipSpace after with
  | [] => .ok v
  | c :: rest => failAhead .trailingCharacters (c :: rest)

/-- Reads a JSON text; the error is the message with its place. -/
def parse (text : String) : Except String Json :=
  (readText text.toList).mapError (Failure.message text.toList)

end CompileDesk.Json
