/-! # The language of scripts

A script is a list of commands. Words are kept as they were written: a word is a list of pieces, each a text
or an expansion that gives text when the command is carried out. Which parts of a word were quoted is
remembered, because quoting decides how expansions are split and which characters of a pattern are special.
-/

namespace CompileDesk.Script

/-- What an expansion does with the value of a parameter. Those with `ifEmpty` treat an empty value like a
missing one. An unknown one ends the script. -/
inductive Modifier where
  | unknown
  | value
  | length
  | orElse (ifEmpty : Bool)
  | orAssign (ifEmpty : Bool)
  | orFail (ifEmpty : Bool)
  | instead (ifEmpty : Bool)
  | withoutEnd (longest : Bool)
  | withoutStart (longest : Bool)
  deriving DecidableEq, Repr

inductive Direction where
  | fromFile
  | fromText
  | toFile
  | toFileEnd
  | toStream
  deriving DecidableEq, Repr

mutual

inductive Piece where
  | text (value : List Char) (quoted : Bool)
  | parameter (name : List Char) (modifier : Modifier) (operand : List Piece) (quoted : Bool)
  | output (body : List Command) (quoted : Bool)
  | arithmetic (expression : List Piece) (quoted : Bool)

inductive Redirection where
  | mk (line stream : Nat) (direction : Direction) (target : List Piece)

/-- The patterns of a case, and what is done when one of them matches. -/
inductive Case where
  | mk (patterns : List (List Piece)) (body : List Command)

/-- A command. A simple one knows its line. A broken one stands for the rest of a script that cannot be
read. -/
inductive Command where
  | simple (line : Nat) (words : List (List Piece)) (redirections : List Redirection)
  | redirected (body : Command) (redirections : List Redirection)
  | group (body : List Command)
  | apart (body : List Command)
  | branch (test yes no : List Command)
  | loop (isUntil : Bool) (test body : List Command)
  | each (name : List Char) (words : List (List Piece)) (body : List Command)
  | choice (subject : List Piece) (cases : List Case)
  | define (name : List Char) (body : Command)
  | pipeline (parts : List Command)
  | inverted (body : Command)
  | both (first second : Command)
  | either (first second : Command)
  | background (body : Command)
  | broken (line : Nat) (message : String)

end

abbrev Word := List Piece

def Piece.isQuoted : Piece → Bool
  | text _ quoted | parameter _ _ _ quoted | output _ quoted | arithmetic _ quoted => quoted

/-- The text at the front of a word that stands there without quotes. -/
def bareStart : Word → List Char
  | .text value false :: rest => value ++ bareStart rest
  | _ => []

def withoutBare : Nat → Word → Word
  | n + 1, .text (_ :: value) false :: rest => withoutBare n (.text value false :: rest)
  | n + 1, .text [] false :: rest => withoutBare (n + 1) rest
  | _, w => w
termination_by n w => (w.length, n)

/-- The text of a word without expansions, quoted or not. -/
def plainText : Word → List Char
  | [] => []
  | .text value _ :: rest => value ++ plainText rest
  | _ :: rest => plainText rest

end CompileDesk.Script
