import CompileDesk.Text.Natural

/-! # TOML strings as they are written

There are four styles: basic strings between double quotes, which may hold escapes, literal strings
between single quotes, and a form of each over several lines between three quotes. A string is
written in the first style, in that order, that shows it without escapes; if there is none it is a
basic string with escapes, over several lines when it holds a line feed.
-/

namespace CompileDesk.Toml

inductive Style where
  | basic
  | literal
  | longBasic
  | longLiteral
  deriving DecidableEq, Repr

/-- A control character that only an escape can show; tab and line feed are none. -/
def needsCode (c : Char) : Bool :=
  (c.val < 0x20 && c != '\t' && c != '\n') || c.val == 0x7F

def longestRunGo (q : Char) : List Char → Nat → Nat
  | [], run => run
  | c :: rest, run =>
    if c == q then longestRunGo q rest (run + 1) else max run (longestRunGo q rest 0)

def longestRun (q : Char) (s : List Char) : Nat := longestRunGo q s 0

/-- Whether a style shows a string without escapes. -/
def Style.shows (s : List Char) : Style → Bool
  | basic => !s.any needsCode && !s.contains '\\' && !s.contains '"' && !s.contains '\n'
  | literal => !s.any needsCode && !s.contains '\'' && !s.contains '\n'
  | longBasic => !s.any needsCode && !s.contains '\\' && longestRun '"' s ≤ 2
  | longLiteral => !s.any needsCode && longestRun '\'' s ≤ 2

def Style.ofValue (s : List Char) : Style :=
  if Style.basic.shows s then .basic
  else if Style.literal.shows s then .literal
  else if Style.longBasic.shows s then .longBasic
  else if Style.longLiteral.shows s then .longLiteral
  else if s.contains '\n' then .longBasic
  else .basic

/-- The escape of a character, if it has to be escaped; quotes are treated apart. -/
def escape? (long : Bool) (c : Char) : Option (List Char) :=
  match c with
  | '\x08' => some ['\\', 'b']
  | '\t' => some ['\\', 't']
  | '\n' => if long then none else some ['\\', 'n']
  | '\x0c' => some ['\\', 'f']
  | '\r' => some ['\\', 'r']
  | '\\' => some ['\\', '\\']
  | _ =>
    if needsCode c then
      some ['\\', 'u', '0', '0', Text.upperHexChar (c.toNat / 16), Text.upperHexChar c.toNat]
    else none

/-- The content of a basic string. A double quote is escaped when it would be one too many in a row:
every one in a string on one line, every third one otherwise. -/
def escapedGo (long : Bool) : Nat → List Char → List Char
  | _, [] => []
  | run, c :: rest =>
    if c == '"' then
      if (if long then 2 else 0) ≤ run then '\\' :: '"' :: escapedGo long 0 rest
      else '"' :: escapedGo long (run + 1) rest
    else match escape? long c with
      | some e => e ++ escapedGo long 0 rest
      | none => c :: escapedGo long 0 rest

/-- A string written in a style. A long form of a string with a line feed begins on a new line. -/
def Style.write (s : List Char) : Style → List Char
  | basic => '"' :: (escapedGo false 0 s ++ ['"'])
  | literal => '\'' :: (s ++ ['\''])
  | longBasic =>
    ['"', '"', '"'] ++ (if s.contains '\n' then ['\n'] else []) ++ escapedGo true 0 s ++
      ['"', '"', '"']
  | longLiteral =>
    ['\'', '\'', '\''] ++ (if s.contains '\n' then ['\n'] else []) ++ s ++ ['\'', '\'', '\'']

def quotedValue (s : String) : List Char := (Style.ofValue s.toList).write s.toList

def quoted (s : String) : String := String.ofList (quotedValue s)

/-- Whether a character may stand in a key without quotes. -/
def isBareChar (c : Char) : Bool :=
  Text.isDigit c || ('a' ≤ c && c ≤ 'z') || ('A' ≤ c && c ≤ 'Z') || c == '_' || c == '-'

/-- A key as it is written: bare if possible, else in the first style on one line that shows it. -/
def quotedKey (key : String) : List Char :=
  let s := key.toList
  if !s.isEmpty && s.all isBareChar then s
  else if Style.basic.shows s then Style.basic.write s
  else if Style.literal.shows s then Style.literal.write s
  else Style.basic.write s

end CompileDesk.Toml
