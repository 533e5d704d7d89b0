import CompileDesk.Text.Blank
import CompileDesk.Text.Natural

/-! # The tokens of a diagram's source

Three kinds of token matter for finding the edges of a graph: quoted names, bare names and the two edge
operators. Everything between them is the gap in front of the next token. A quoted name ends at the
first quote that no backslash precedes; a backslash pairs with any character but a line feed. A quote
that opens no complete name belongs to a gap.
-/

namespace CompileDesk.Diagram

def isNameChar (c : Char) : Bool :=
  Text.isDigit c || ('a' ≤ c && c ≤ 'z') || ('A' ≤ c && c ≤ 'Z') || c == '_' || c == '.'

inductive Token where
  | name (written : List Char)
  | operator (second : Char)
  deriving DecidableEq, Repr

structure Lexeme where
  gap : List Char
  token : Token
  deriving DecidableEq, Repr

def quotedContent? : List Char → Option (List Char × List Char)
  | [] => none
  | '"' :: rest => some ([], rest)
  | '\\' :: [] => none
  | '\\' :: c :: rest =>
    if c == '\n' then none
    else (quotedContent? rest).map fun (content, after) => ('\\' :: c :: content, after)
  | c :: rest => (quotedContent? rest).map fun (content, after) => (c :: content, after)

def Token.atFront? : List Char → Option (Token × List Char)
  | [] => none
  | c :: rest =>
    if c == '"' then
      (quotedContent? rest).map fun (content, after) => (.name ('"' :: (content ++ ['"'])), after)
    else if isNameChar c then
      some (.name (c :: rest.takeWhile isNameChar), rest.dropWhile isNameChar)
    else if c == '-' then
      match rest with
      | '-' :: after => some (.operator '-', after)
      | '>' :: after => some (.operator '>', after)
      | _ => none
    else none

/-- The tokens of a text. The gap under way is kept in reverse; every round takes at least one
character, so that fuel of the text's length suffices. -/
def scanGo : Nat → List Char → List Char → List Lexeme
  | 0, _, _ => []
  | _, _, [] => []
  | fuel + 1, gap, c :: rest =>
    match Token.atFront? (c :: rest) with
    | some (token, after) => ⟨gap.reverse, token⟩ :: scanGo fuel [] after
    | none => scanGo fuel (c :: gap) rest

def scan (s : List Char) : List Lexeme := scanGo s.length [] s

end CompileDesk.Diagram
