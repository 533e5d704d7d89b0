/-! # Natural numbers in text

Decimal digits of natural numbers, written without leading zeros, and the value of a run of
digits. The reader of a bounded number accepts one leading plus sign and any number of zeros.
-/

namespace CompileDesk.Text

def isDigit (c : Char) : Bool := '0' ≤ c && c ≤ '9'

def digitValue (c : Char) : Nat := c.toNat - 48

def hexValue? (c : Char) : Option Nat :=
  if '0' ≤ c && c ≤ '9' then some (c.toNat - 48)
  else if 'a' ≤ c && c ≤ 'f' then some (c.toNat - 87)
  else if 'A' ≤ c && c ≤ 'F' then some (c.toNat - 55)
  else none

def lowerHexChar (n : Nat) : Char :=
  if n % 16 < 10 then Char.ofNat (48 + n % 16) else Char.ofNat (87 + n % 16)

def upperHexChar (n : Nat) : Char :=
  if n % 16 < 10 then Char.ofNat (48 + n % 16) else Char.ofNat (55 + n % 16)

/-- The decimal digits of a number, most significant first. -/
def decimal (n : Nat) : List Char := Nat.toDigits 10 n

def natural (s : List Char) : Nat := Nat.ofDigitChars 10 s 0

@[simp] theorem natural_decimal (n : Nat) : natural (decimal n) = n :=
  Nat.ofDigitChars_toDigits (by decide) (by decide)

def ofNat (n : Nat) : String := String.ofList (decimal n)

/-- An integer written in decimal, with a minus sign when it is negative. -/
def ofInt : Int → String
  | .ofNat n => ofNat n
  | .negSucc n => "-" ++ ofNat (n + 1)

/-- A number in decimal with zeros in front up to the given width. -/
def zeroPadded (width n : Nat) : List Char :=
  let digits := decimal n
  List.replicate (width - digits.length) '0' ++ digits

/-- The value of a run of hexadecimal digits; `none` when a character is no such digit. -/
def hexadecimal? (s : List Char) : Option Nat :=
  s.foldlM (fun value c => (hexValue? c).map (value * 16 + ·)) 0

/-- Reads an unsigned number of at most the given size: digits after at most one plus sign. -/
def bounded? (limit : Nat) (s : List Char) : Option Nat :=
  let digits := match s with
    | '+' :: rest => rest
    | _ => s
  if digits.isEmpty || !digits.all isDigit then none
  else if natural digits ≤ limit then some (natural digits) else none

def maxWord : Nat := 18446744073709551615

end CompileDesk.Text
