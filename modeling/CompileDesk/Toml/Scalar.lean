import CompileDesk.Toml.Value

/-! # Values without quotes

What a value without quotes stands for is decided by its form alone. It is a truth value, a moment, an
integer in one of four bases, or a floating-point number. An underscore may stand between two digits,
and a decimal number has no zeros in front.
-/

namespace CompileDesk.Toml

/-- Removes the underscores between digits; `none` when one does not stand between two digits, a
character is no digit, or there is none at all. -/
def ungroupedGo (digit : Char → Bool) : Bool → List Char → Option (List Char)
  | afterDigit, [] => if afterDigit then some [] else none
  | afterDigit, c :: rest =>
    if c == '_' then if afterDigit then ungroupedGo digit false rest else none
    else if digit c then (ungroupedGo digit true rest).map (c :: ·)
    else none

def ungrouped? (digit : Char → Bool) (s : List Char) : Option (List Char) :=
  ungroupedGo digit false s

def valueIn (base : Nat) (digits : List Char) : Nat :=
  digits.foldl (fun value c => value * base + (Text.hexValue? c).getD 0) 0

def based? (base : Nat) (s : List Char) : Option Toml :=
  let digit (c : Char) : Bool := match Text.hexValue? c with
    | some d => d < base
    | none => false
  (ungrouped? digit s).map fun digits => .integer (valueIn base digits)

/-- The digits before a point or an exponent: no zero in front of others. -/
def wholeDigits? (s : List Char) : Option (List Char) :=
  match s with
  | '0' :: _ :: _ => none
  | _ => ungrouped? Text.isDigit s

/-- Reads an exponent: digits with a sign or without. -/
def exponent? (s : List Char) : Option Int :=
  match s with
  | '-' :: rest => (ungrouped? Text.isDigit rest).map fun d => -(Text.natural d : Int)
  | '+' :: rest => (ungrouped? Text.isDigit rest).map fun d => (Text.natural d : Int)
  | _ => (ungrouped? Text.isDigit s).map fun d => (Text.natural d : Int)

def isGrouped (c : Char) : Bool := Text.isDigit c || c == '_'

/-- The floating-point value of digits, unless it is too large. -/
def realOf? (negative : Bool) (digits : List Char) (exponent : Int) : Option Toml :=
  (Decimal.ofDecimal? (Text.natural digits) exponent).map fun x =>
    .real (.finite ⟨negative, x⟩)

def afterPlaces? (negative : Bool) (digits : List Char) (places : Nat) (s : List Char) :
    Option Toml :=
  match s with
  | [] => realOf? negative digits (-(places : Int))
  | c :: rest =>
    if c == 'e' || c == 'E' then
      (exponent? rest).bind fun e => realOf? negative digits (e - places)
    else none

def decimalNumber? (negative : Bool) (s : List Char) : Option Toml := do
  let whole ← wholeDigits? (s.takeWhile isGrouped)
  match s.dropWhile isGrouped with
  | [] =>
    let n := Text.natural whole
    some (.integer (if negative then -(n : Int) else n))
  | '.' :: rest =>
    let places ← ungrouped? Text.isDigit (rest.takeWhile isGrouped)
    afterPlaces? negative (whole ++ places) places.length (rest.dropWhile isGrouped)
  | rest => afterPlaces? negative whole 0 rest

/-- Reads a number that may have a sign, or one of the two special ones. -/
def signedNumber? (s : List Char) : Option Toml :=
  let (negative, body) := match s with
    | '-' :: rest => (true, rest)
    | '+' :: rest => (false, rest)
    | _ => (false, s)
  if body == "inf".toList then some (.real (.infinity negative))
  else if body == "nan".toList then some (.real .nan)
  else decimalNumber? negative body

/-- The value of a text without quotes. -/
def scalar? (s : List Char) : Option Toml :=
  if s == "true".toList then some (.boolean true)
  else if s == "false".toList then some (.boolean false)
  else match Moment.read? s, s with
    | some m, _ => some (.moment m)
    | none, '0' :: 'x' :: rest => based? 16 rest
    | none, '0' :: 'o' :: rest => based? 8 rest
    | none, '0' :: 'b' :: rest => based? 2 rest
    | none, _ => signedNumber? s

end CompileDesk.Toml
