import CompileDesk.Script.Arithmetic
import CompileDesk.Script.State

/-! # Formatted output

A format is text with escapes and with places for arguments. It is used again as long as arguments are
left. An escape with octal digits stands for one byte. A place may have a width, to which its text is padded
on the left, or on the right after a minus sign, and a precision, which cuts texts.
-/

namespace CompileDesk.Script

def escapeOf? : Char → Option Char
  | 'n' => some '\n'
  | 't' => some '\t'
  | 'r' => some '\r'
  | 'a' => some '\x07'
  | 'b' => some '\x08'
  | 'f' => some '\x0c'
  | 'v' => some '\x0b'
  | '\\' => some '\\'
  | _ => none

def isOctal (c : Char) : Bool := '0' ≤ c && c ≤ '7'

def octal (s : List Char) : Nat := s.foldl (fun n c => n * 8 + Text.digitValue c) 0

/-- The bytes of a text with escapes, and whether it ended at the escape that ends all output. An octal
escape begins with a zero. -/
def unescaped : Nat → List Char → List UInt8 × Bool
  | 0, _ => ([], false)
  | _, [] => ([], false)
  | fuel + 1, '\\' :: d :: rest =>
    let literal (s : List Char) (after : List Char) : List UInt8 × Bool :=
      let (out, ended) := unescaped fuel after
      (bytesOf s ++ out, ended)
    if d == 'c' then ([], true)
    else if d == '0' then
      let digits := (rest.take 3).takeWhile isOctal
      let (out, ended) := unescaped fuel (rest.drop digits.length)
      (UInt8.ofNat (octal digits) :: out, ended)
    else match escapeOf? d with
      | some e => literal [e] rest
      | none => literal ['\\'] (d :: rest)
  | fuel + 1, c :: rest =>
    let (out, ended) := unescaped fuel rest
    (bytesOf [c] ++ out, ended)

structure FormatPlace where
  text : List Char
  flags : List Char := []
  width : Nat := 0
  precision : Option Nat := none
  conversion : Char

namespace FormatPlace

def ofText? (all : List Char) : Option (FormatPlace × List Char) :=
  let s := all
  let isFlag (c : Char) : Bool := "-+ #0".toList.contains c
  let flags := s.takeWhile isFlag
  let s := s.dropWhile isFlag
  let width := Text.natural (s.takeWhile Text.isDigit)
  let s := s.dropWhile Text.isDigit
  let (precision, s) := match s with
    | '.' :: rest => (some (Text.natural (rest.takeWhile Text.isDigit)), rest.dropWhile Text.isDigit)
    | _ => (none, s)
  match s with
  | conversion :: rest =>
    some (⟨all.take (all.length - rest.length), flags, width, precision, conversion⟩, rest)
  | [] => none

def padded (p : FormatPlace) (bytes : List UInt8) : List UInt8 :=
  let padding := List.replicate (p.width - bytes.length) 32
  if p.flags.contains '-' then bytes ++ padding else padding ++ bytes

def cut (p : FormatPlace) (bytes : List UInt8) : List UInt8 :=
  match p.precision with
  | some n => bytes.take n
  | none => bytes

/-- The bytes of a number with what stands in front of its digits. Zeros fill the precision, or the width if the
place says so and has no precision. -/
def filled (p : FormatPlace) (front digits : List Char) : List UInt8 :=
  let digitCount := match p.precision with
    | some n => n
    | none => if p.flags.contains '0' && !p.flags.contains '-' then p.width - front.length else 0
  p.padded (bytesOf (front ++ List.replicate (digitCount - digits.length) '0' ++ digits))

def ofInteger (p : FormatPlace) (n : Int) : List UInt8 :=
  let front :=
    if n < 0 then ['-'] else if p.flags.contains '+' then ['+'] else if p.flags.contains ' ' then [' '] else []
  p.filled front (Text.decimal n.natAbs)

def inBase (p : FormatPlace) (base : Nat) (mark : String) (n : Int) : List UInt8 :=
  let digits := Nat.toDigits base (Int64.ofInt n).toUInt64.toNat
  p.filled (if p.flags.contains '#' && n != 0 then mark.toList else []) digits

end FormatPlace

/-- The integer that an argument gives, and what is wrong with the argument. After a quote it is the number of
a byte. -/
def integerOf (argument : List Char) : Int × Option String :=
  match argument with
  | '\'' :: rest | '"' :: rest => (((bytesOf rest).head?.map UInt8.toNat).getD 0, none)
  | _ =>
    let (negative, digits) := match Arithmetic.skip argument with
      | '-' :: digits => (true, digits)
      | '+' :: digits | digits => (false, digits)
    match Arithmetic.number? digits with
    | none => (0, if argument.isEmpty then none else some "expected numeric value")
    | some (n, after) =>
      (if negative then -n.toInt else n.toInt,
        if after.isEmpty then none else some "not completely converted")

/-- What writing a format gave: the bytes, the arguments that are left, whether all output has ended, and what
was wrong with arguments. -/
structure Formatted where
  bytes : List UInt8 := []
  left : List (List Char) := []
  ended : Bool := false
  complaints : List String := []

namespace Formatted

def after (f : Formatted) (bytes : List UInt8) : Formatted := { f with bytes := bytes ++ f.bytes }

def followedBy (f g : Formatted) : Formatted :=
  ⟨f.bytes ++ g.bytes, g.left, g.ended, f.complaints ++ g.complaints⟩

def ofPlace (p : FormatPlace) (argument : List Char) : Formatted :=
  let ofInteger (write : Int → List UInt8) : Formatted :=
    let (n, complaint) := integerOf argument
    { bytes := write n
      complaints := (complaint.map fun c => String.ofList argument ++ ": " ++ c).toList }
  match p.conversion with
  | 's' => { bytes := p.padded (p.cut (bytesOf argument)) }
  | 'b' =>
    let (out, ended) := unescaped (argument.length + 1) argument
    { bytes := p.padded (p.cut out), ended }
  | 'c' => { bytes := p.padded ((bytesOf argument).take 1) }
  | 'd' | 'i' => ofInteger p.ofInteger
  | 'u' => ofInteger (p.inBase 10 "")
  | 'x' => ofInteger (p.inBase 16 "0x")
  | 'X' => ofInteger fun n => (p.inBase 16 "0X" n).map fun b => if 97 ≤ b && b ≤ 102 then b - 32 else b
  | 'o' => ofInteger (p.inBase 8 "0")
  | _ => { complaints := ["%" ++ String.ofList p.text ++ ": invalid directive"], ended := true }

end Formatted

def formatOnce : Nat → List Char → List (List Char) → Formatted
  | 0, _, args => { left := args }
  | _, [], args => { left := args }
  | fuel + 1, '\\' :: d :: more, args =>
    if isOctal d then
      let digits := ((d :: more).take 3).takeWhile isOctal
      (formatOnce fuel ((d :: more).drop digits.length) args).after [UInt8.ofNat (octal digits)]
    else match escapeOf? d with
      | some e => (formatOnce fuel more args).after (bytesOf [e])
      | none => (formatOnce fuel more args).after (bytesOf ['\\', d])
  | fuel + 1, '%' :: '%' :: more, args => (formatOnce fuel more args).after (bytesOf ['%'])
  | fuel + 1, '%' :: more, args =>
    match FormatPlace.ofText? more with
    | none => { bytes := bytesOf ['%'], left := args }
    | some (place, rest) =>
      let f := Formatted.ofPlace place (args.headD [])
      if f.ended then f else f.followedBy (formatOnce fuel rest (args.drop 1))
  | fuel + 1, c :: rest, args => (formatOnce fuel rest args).after (bytesOf [c])

def formatAll : Nat → List Char → List (List Char) → Formatted
  | 0, _, args => { left := args }
  | fuel + 1, format, args =>
    let f := formatOnce (format.length + 1) format args
    if f.ended || f.left.isEmpty || f.left.length == args.length then f
    else f.followedBy (formatAll fuel format f.left)

def printf (s : State) (format : List Char) (args : List (List Char)) : State :=
  let f := formatAll (args.length + 1) format args
  let s := f.complaints.foldl (fun s c => s.say ("printf: " ++ c)) (s.write 1 f.bytes)
  s.tells f.complaints.isEmpty

/-- The output of the `echo` of scripts: its arguments in one line. Its only option leaves out the end of the
line. -/
def echo (args : List (List Char)) : List UInt8 :=
  let (args, lineEnd) := if args.head? == some ['-', 'n'] then (args.drop 1, []) else (args, bytesOf ['\n'])
  let text := (args.intersperse [' ']).flatten
  let (out, ended) := unescaped (text.length + 1) text
  if ended then out else out ++ lineEnd

end CompileDesk.Script
