import CompileDesk.Json.Fault
import CompileDesk.Json.Value

/-! # The parts of JSON text

Readers of the tokens: white space, literal names, numbers and strings. Each takes the text from
the token on and gives the token's value with the text after it. A number keeps the first digits
that fit into 64 bits and counts the others as places; its value is then reached in rounded steps.
-/

namespace CompileDesk.Json

def isSpace (c : Char) : Bool := c == ' ' || c == '\t' || c == '\n' || c == '\r'

def skipSpace (s : List Char) : List Char := s.dropWhile isSpace

def readLetters : List Char → List Char → Except Failure (List Char)
  | [], s => .ok s
  | _ :: _, [] => failHere .endInValue []
  | c :: letters, d :: rest =>
    if c == d then readLetters letters rest else failAhead .expectedIdent (d :: rest)

/-! ## Strings -/

def byteCount : List Char → Nat
  | [] => 0
  | c :: rest => c.utf8Size + byteCount rest

/-- Reads four hexadecimal digits. The four bytes are taken before they are looked at. -/
def readUnit (s : List Char) : Reading Nat :=
  match s with
  | a :: b :: c :: d :: rest =>
    match Text.hexadecimal? [a, b, c, d] with
    | some unit => .ok (unit, rest)
    | none => .error ⟨.invalidEscape, s, 4⟩
  | _ => if byteCount s < 4 then failHere .endInString [] else .error ⟨.invalidEscape, s, 4⟩

def shortEscape? : Char → Option Char
  | '"' => some '"'
  | '\\' => some '\\'
  | '/' => some '/'
  | 'b' => some '\x08'
  | 'f' => some '\x0c'
  | 'n' => some '\n'
  | 'r' => some '\r'
  | 't' => some '\t'
  | _ => none

/-- Reads what follows a leading surrogate: a backslash, a `u` and a trailing one. -/
def readTrailing (leading : Nat) (s : List Char) : Reading Char :=
  match s with
  | [] => failHere .endInString []
  | '\\' :: [] => failHere .endInString []
  | '\\' :: 'u' :: rest =>
    (readUnit rest).andThen fun unit after =>
    if unit < 0xDC00 || 0xDFFF < unit then failHere .unpairedTrailing after
    else .ok (Char.ofNat ((leading - 0xD800) * 1024 + (unit - 0xDC00) + 0x10000), after)
  | '\\' :: rest => failAhead .unpairedLeading rest
  | rest => failAhead .unpairedLeading rest

def readEscape (s : List Char) : Reading Char :=
  match s with
  | [] => failHere .endInString []
  | 'u' :: rest =>
    (readUnit rest).andThen fun unit after =>
    if 0xDC00 ≤ unit && unit ≤ 0xDFFF then failHere .unpairedTrailing after
    else if 0xD800 ≤ unit && unit ≤ 0xDBFF then readTrailing unit after
    else .ok (Char.ofNat unit, after)
  | c :: rest =>
    match shortEscape? c with
    | some d => .ok (d, rest)
    | none => failAhead .invalidEscape s

def readStringGo : Nat → List Char → Reading (List Char)
  | 0, s => failHere .endInString s
  | _, [] => failHere .endInString []
  | _, '"' :: rest => .ok ([], rest)
  | fuel + 1, '\\' :: rest =>
    (readEscape rest).andThen fun c after =>
    (readStringGo fuel after).andThen fun cs after => .ok (c :: cs, after)
  | fuel + 1, c :: rest =>
    if c.val < 0x20 then failAhead .controlCharacter (c :: rest)
    else (readStringGo fuel rest).andThen fun cs after => .ok (c :: cs, after)

def readString (s : List Char) : Reading String :=
  (readStringGo (s.length + 1) s).andThen fun cs after => .ok (String.ofList cs, after)

/-! ## Numbers -/

structure Kept where
  significand : Nat
  exponent : Int

/-- Appends a digit when the significand stays within 64 bits. -/
def pushDigit? (significand : Nat) (c : Char) : Option Nat :=
  let next := significand * 10 + Text.digitValue c
  if next ≤ Text.maxWord then some next else none

def readWhole (significand dropped : Nat) : List Char → Nat × Nat × List Char
  | [] => (significand, dropped, [])
  | c :: rest =>
    if Text.isDigit c then
      if dropped > 0 then readWhole significand (dropped + 1) rest
      else match pushDigit? significand c with
        | some next => readWhole next 0 rest
        | none => readWhole significand 1 rest
    else (significand, dropped, c :: rest)

/-- Reads the digits after the point: how many were kept is counted, and after the first one that
does not fit no more are kept. -/
def readPlaces (significand kept : Nat) : List Char → Nat × Nat × List Char
  | [] => (significand, kept, [])
  | c :: rest =>
    if Text.isDigit c then
      match pushDigit? significand c with
      | some next => readPlaces next (kept + 1) rest
      | none => (significand, kept, rest.dropWhile Text.isDigit)
    else (significand, kept, c :: rest)

def scaled (negative : Bool) (k : Kept) (after : List Char) : Reading JsonNumber :=
  match Decimal.inSteps? k.significand k.exponent with
  | some x => .ok (.binary ⟨negative, x⟩, after)
  | none => failHere .numberOutOfRange after

/-- The largest exponent that is still counted digit by digit. -/
def maxExponent : Nat := 2147483647

/-- Reads the digits of an exponent. The text after a digit that makes it too large stands in the
third place when there is one. -/
def readExponentDigits (value : Nat) : List Char → Nat × List Char × Option (List Char)
  | [] => (value, [], none)
  | c :: rest =>
    if Text.isDigit c then
      let next := value * 10 + Text.digitValue c
      if next ≤ maxExponent then readExponentDigits next rest
      else (next, rest.dropWhile Text.isDigit, some rest)
    else (value, c :: rest, none)

def readExponent (negative : Bool) (k : Kept) (s : List Char) : Reading JsonNumber :=
  let (down, digits) := match s with
    | '+' :: rest => (false, rest)
    | '-' :: rest => (true, rest)
    | _ => (false, s)
  match digits with
  | [] => failHere .endInValue []
  | c :: rest =>
    if Text.isDigit c then
      match readExponentDigits (Text.digitValue c) rest with
      | (value, after, none) =>
        scaled negative ⟨k.significand, if down then k.exponent - value else k.exponent + value⟩ after
      | (_, after, some excess) =>
        if k.significand != 0 && !down then failHere .numberOutOfRange excess
        else .ok (.binary ⟨negative, .zero⟩, after)
    else failAhead .invalidNumber digits

def readAfterPlaces (negative : Bool) (k : Kept) (s : List Char) : Reading JsonNumber :=
  match s with
  | 'e' :: rest => readExponent negative k rest
  | 'E' :: rest => readExponent negative k rest
  | _ => scaled negative k s

/-- The number without point and exponent: an integer when it fits. -/
def wholeNumber (negative : Bool) (significand : Nat) : JsonNumber :=
  if negative then
    if 0 < significand && significand ≤ 9223372036854775808 then .integer (-(significand : Int))
    else .binary ⟨true, (Decimal.nearest? significand 1).getD .zero⟩
  else .integer significand

def readAfterWhole (negative : Bool) (significand dropped : Nat) (s : List Char) :
    Reading JsonNumber :=
  match s with
  | '.' :: rest =>
    let (next, kept, after) := readPlaces significand 0 rest
    if kept == 0 && (rest.head?.map Text.isDigit) != some true then
      match rest with
      | [] => failHere .endInValue []
      | _ => failAhead .invalidNumber rest
    else readAfterPlaces negative ⟨next, (dropped : Int) - kept⟩ after
  | 'e' :: rest => readExponent negative ⟨significand, dropped⟩ rest
  | 'E' :: rest => readExponent negative ⟨significand, dropped⟩ rest
  | _ =>
    if dropped == 0 then .ok (wholeNumber negative significand, s)
    else scaled negative ⟨significand, dropped⟩ s

def readNumber (negative : Bool) (s : List Char) : Reading JsonNumber :=
  match s with
  | [] => failHere .endInValue []
  | '0' :: rest =>
    match rest with
    | c :: _ =>
      if Text.isDigit c then failAhead .invalidNumber rest else readAfterWhole negative 0 0 rest
    | [] => readAfterWhole negative 0 0 rest
  | c :: rest =>
    if Text.isDigit c then
      let (significand, dropped, after) := readWhole (Text.digitValue c) 0 rest
      readAfterWhole negative significand dropped after
    else failAhead .invalidNumber s

end CompileDesk.Json
