import CompileDesk.Text.Blank
import CompileDesk.Text.Natural

/-! # Reading TOML strings

Readers of the four styles of strings, each taking the text after the opening quotes. A string over
several lines drops a line end right after its opening quotes, ends with up to two quotes of its own
in front of the closing ones, and keeps its other line ends as they are: a carriage return stays, but it
must have a line feed after it. Where a string ends is told apart from whether it can be read.
-/

namespace CompileDesk.Toml

/-- Whether a character may stand as itself in a string on one line or in a comment: no control
character but the tab. -/
def isPlain (c : Char) : Bool := (0x20 ≤ c.val && c.val != 0x7F) || c == '\t'

/-- The character with the given number, unless the number is a surrogate or too large. -/
def scalarValue? (n : Nat) : Option Char :=
  if n < 0xD800 || (0xDFFF < n && n < 0x110000) then some (Char.ofNat n) else none

def readCode? (count : Nat) (s : List Char) : Option (Char × List Char) :=
  let digits := s.take count
  if digits.length < count then none
  else do
    let c ← scalarValue? (← Text.hexadecimal? digits)
    some (c, s.drop count)

def readEscape? (s : List Char) : Option (Char × List Char) :=
  match s with
  | [] => none
  | c :: rest =>
    match c with
    | 'b' => some ('\x08', rest)
    | 't' => some ('\t', rest)
    | 'n' => some ('\n', rest)
    | 'f' => some ('\x0c', rest)
    | 'r' => some ('\r', rest)
    | 'e' => some ('\x1b', rest)
    | '"' => some ('"', rest)
    | '\\' => some ('\\', rest)
    | 'x' => readCode? 2 rest
    | 'u' => readCode? 4 rest
    | 'U' => readCode? 8 rest
    | _ => none

def readBasic? : Nat → List Char → Option (List Char × List Char)
  | 0, _ => none
  | _, [] => none
  | fuel + 1, c :: rest =>
    if c == '"' then some ([], rest)
    else if c == '\\' then
      match readEscape? rest with
      | some (d, after) => (readBasic? fuel after).map fun (cs, after) => (d :: cs, after)
      | none => none
    else if isPlain c then (readBasic? fuel rest).map fun (cs, after) => (c :: cs, after)
    else none

def readLiteral? : List Char → Option (List Char × List Char)
  | [] => none
  | c :: rest =>
    if c == '\'' then some ([], rest)
    else if isPlain c then (readLiteral? rest).map fun (cs, after) => (c :: cs, after)
    else none

/-- Drops a line end right after the opening quotes. -/
def dropLineEnd : List Char → List Char
  | '\n' :: rest => rest
  | '\r' :: '\n' :: rest => rest
  | s => s

def isLineBlank (c : Char) : Bool := c == ' ' || c == '\t'

/-- Drops blanks and line ends; the flag tells that a line end was dropped. -/
def dropLines : Bool → List Char → Bool × List Char
  | ended, [] => (ended, [])
  | _, '\n' :: rest => dropLines true rest
  | _, '\r' :: '\n' :: rest => dropLines true rest
  | ended, c :: rest => if isLineBlank c then dropLines ended rest else (ended, c :: rest)

/-- The end of a string over several lines: the quotes of its own in front of the closing ones. -/
def closing? (q : Char) (s : List Char) : Option (List Char × List Char) :=
  let quotes := (s.takeWhile (· == q)).length
  if quotes < 3 then none
  else
    let own := min (quotes - 3) 2
    some (List.replicate own q, s.drop (own + 3))

/-- Reads a basic string over several lines. A backslash at the end of a line drops the line end and
all blanks and line ends after it. -/
def readLongBasic? : Nat → List Char → Option (List Char × List Char)
  | 0, _ => none
  | _, [] => none
  | fuel + 1, c :: rest =>
    match closing? '"' (c :: rest) with
    | some found => some found
    | none =>
      if c == '\\' then
        match dropLines false rest with
        | (true, after) => readLongBasic? fuel after
        | (false, _) =>
          match readEscape? rest with
          | some (d, after) => (readLongBasic? fuel after).map fun (cs, after) => (d :: cs, after)
          | none => none
      else if c == '\r' then
        match rest with
        | '\n' :: more => (readLongBasic? fuel more).map fun (cs, after) => ('\r' :: '\n' :: cs, after)
        | _ => none
      else if isPlain c || c == '\n' then
        (readLongBasic? fuel rest).map fun (cs, after) => (c :: cs, after)
      else none

def readLongLiteral? : Nat → List Char → Option (List Char × List Char)
  | 0, _ => none
  | _, [] => none
  | fuel + 1, c :: rest =>
    match closing? '\'' (c :: rest) with
    | some found => some found
    | none =>
      if c == '\r' then
        match rest with
        | '\n' :: more => (readLongLiteral? fuel more).map fun (cs, after) => ('\r' :: '\n' :: cs, after)
        | _ => none
      else if isPlain c || c == '\n' then
        (readLongLiteral? fuel rest).map fun (cs, after) => (c :: cs, after)
      else none

/-! ## Where strings end -/

/-- Splits after the closing quote of a basic string. One that is not closed ends with its line. -/
def splitBasic : List Char → List Char × List Char
  | [] => ([], [])
  | '"' :: rest => (['"'], rest)
  | '\n' :: rest => ([], '\n' :: rest)
  | '\\' :: '"' :: rest =>
    let (inner, after) := splitBasic rest
    ('\\' :: '"' :: inner, after)
  | '\\' :: '\\' :: rest =>
    let (inner, after) := splitBasic rest
    ('\\' :: '\\' :: inner, after)
  | c :: rest =>
    let (inner, after) := splitBasic rest
    (c :: inner, after)

/-- Splits after the closing quote of a literal string. One that is not closed ends with its line. -/
def splitLiteral : List Char → List Char × List Char
  | [] => ([], [])
  | '\'' :: rest => (['\''], rest)
  | '\n' :: rest => ([], '\n' :: rest)
  | c :: rest =>
    let (inner, after) := splitLiteral rest
    (c :: inner, after)

/-- Splits after the closing quotes of a string over several lines. One that is not closed ends with the
text. In a string with escapes a quote or a backslash right after a backslash is passed over. -/
def splitLong (q : Char) (escapes : Bool) : List Char → List Char × List Char
  | [] => ([], [])
  | c :: rest =>
    match closing? q (c :: rest) with
    | some (own, after) => (own ++ [q, q, q], after)
    | none =>
      match rest with
      | d :: more =>
        if escapes && c == '\\' && (d == '"' || d == '\\') then
          let (inner, after) := splitLong q escapes more
          (c :: d :: inner, after)
        else
          let (inner, after) := splitLong q escapes (d :: more)
          (c :: inner, after)
      | [] => ([c], [])

end CompileDesk.Toml
