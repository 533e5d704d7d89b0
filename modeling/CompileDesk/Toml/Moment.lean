import CompileDesk.Text.Natural

/-! # Dates and times

A moment is a date, a time of day, or both, in the last case perhaps with an offset from universal time.
Seconds may be left out; of their fraction nine digits are kept. Written out, a date and a time are
joined by `T`, and the fraction has no zeros at its end.
-/

namespace CompileDesk.Toml

structure Date where
  year : Nat
  month : Nat
  day : Nat
  deriving DecidableEq, Repr

/-- A time of day; the fraction is counted in billionths of a second. -/
structure TimeOfDay where
  hour : Nat
  minute : Nat
  second : Option Nat
  fraction : Option Nat
  deriving DecidableEq, Repr

/-- An offset from universal time; one that is written as digits is counted in minutes. -/
inductive Offset where
  | universal
  | minutes (value : Int)
  deriving DecidableEq, Repr

inductive Moment where
  | date (date : Date)
  | time (time : TimeOfDay)
  | both (date : Date) (time : TimeOfDay) (offset : Option Offset)
  deriving DecidableEq, Repr

/-! ## Reading -/

def twoDigits? : List Char → Option (Nat × List Char)
  | a :: b :: rest =>
    if Text.isDigit a && Text.isDigit b then some (Text.natural [a, b], rest) else none
  | _ => none

def fourDigits? : List Char → Option (Nat × List Char)
  | a :: b :: c :: d :: rest =>
    if [a, b, c, d].all Text.isDigit then some (Text.natural [a, b, c, d], rest) else none
  | _ => none

def expect? (c : Char) : List Char → Option (List Char)
  | d :: rest => if c == d then some rest else none
  | [] => none

def daysIn (year month : Nat) : Nat :=
  if month == 2 then
    if year % 4 == 0 && (year % 100 != 0 || year % 400 == 0) then 29 else 28
  else if month == 4 || month == 6 || month == 9 || month == 11 then 30
  else 31

def readDate? (s : List Char) : Option (Date × List Char) := do
  let (year, s) ← fourDigits? s
  let (month, s) ← twoDigits? (← expect? '-' s)
  let (day, s) ← twoDigits? (← expect? '-' s)
  if 1 ≤ month && month ≤ 12 && 1 ≤ day && day ≤ daysIn year month then
    some (⟨year, month, day⟩, s)
  else none

def readFraction? (s : List Char) : Option (Nat × List Char) :=
  let digits := s.takeWhile Text.isDigit
  if digits.isEmpty then none
  else
    let kept := digits.take 9
    some (Text.natural (kept ++ List.replicate (9 - kept.length) '0'), s.dropWhile Text.isDigit)

def readTime? (s : List Char) : Option (TimeOfDay × List Char) := do
  let (hour, s) ← twoDigits? s
  let (minute, s) ← twoDigits? (← expect? ':' s)
  if hour > 23 || minute > 59 then none
  else match s with
    | ':' :: s =>
      let (second, s) ← twoDigits? s
      if second > 60 then none
      else match s with
        | '.' :: s =>
          let (fraction, s) ← readFraction? s
          some (⟨hour, minute, some second, some fraction⟩, s)
        | _ => some (⟨hour, minute, some second, none⟩, s)
    | _ => some (⟨hour, minute, none, none⟩, s)

/-- Reads an offset, if one follows. -/
def readOffset? (s : List Char) : Option (Option Offset × List Char) :=
  let digits (negative : Bool) (s : List Char) : Option (Option Offset × List Char) := do
    let (hours, s) ← twoDigits? s
    let (minutes, s) ← twoDigits? (← expect? ':' s)
    let total : Int := hours * 60 + minutes
    if hours > 23 || minutes > 59 then none
    else some (some (.minutes (if negative then -total else total)), s)
  match s with
  | 'Z' :: s => some (some .universal, s)
  | 'z' :: s => some (some .universal, s)
  | '+' :: s => digits false s
  | '-' :: s => digits true s
  | _ => some (none, s)

def Moment.read? (s : List Char) : Option Moment := do
  match readDate? s with
  | some (d, []) => some (.date d)
  | some (d, c :: s) =>
    if c == 'T' || c == 't' || c == ' ' then
      let (t, s) ← readTime? s
      let (offset, s) ← readOffset? s
      if s.isEmpty then some (.both d t offset) else none
    else none
  | none =>
    let (t, s) ← readTime? s
    if s.isEmpty then some (.time t) else none

/-! ## Writing -/

def Date.text (d : Date) : List Char :=
  Text.zeroPadded 4 d.year ++ '-' :: Text.zeroPadded 2 d.month ++ '-' :: Text.zeroPadded 2 d.day

/-- A fraction of a second without zeros at its end, but with at least one digit. -/
def fractionText (fraction : Nat) : List Char :=
  match ((Text.zeroPadded 9 fraction).reverse.dropWhile (· == '0')).reverse with
  | [] => ['0']
  | digits => digits

def TimeOfDay.text (t : TimeOfDay) : List Char :=
  Text.zeroPadded 2 t.hour ++ ':' :: Text.zeroPadded 2 t.minute ++
    (match t.second with
      | some second => ':' :: Text.zeroPadded 2 second
      | none => []) ++
    (match t.fraction with
      | some fraction => '.' :: fractionText fraction
      | none => [])

def Offset.text : Offset → List Char
  | universal => ['Z']
  | minutes m =>
    (if m < 0 then '-' else '+') :: Text.zeroPadded 2 (m.natAbs / 60) ++
      ':' :: Text.zeroPadded 2 (m.natAbs % 60)

def Moment.text : Moment → List Char
  | date d => d.text
  | time t => t.text
  | both d t offset =>
    d.text ++ 'T' :: t.text ++ (match offset with
      | some o => o.text
      | none => [])

end CompileDesk.Toml
