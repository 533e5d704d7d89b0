import CompileDesk.Text.Natural

/-! # The source of scripts

A script is read from its front. What comes next after blanks and comments is a sign: a separator, a
parenthesis, a redirection, or a word. Texts of redirections are taken out of the lines below. A script that
breaks the rules has the line and the wording of the fault.
-/

namespace CompileDesk.Script

/-- What has not been read of a script, the line that it begins on, and how many lines below that one have
been taken out already as texts of redirections. -/
structure Source where
  rest : List Char
  line : Nat := 1
  skipped : Nat := 0

structure Fault where
  line : Nat
  message : String

abbrev Reader := StateT Source (Except Fault)

def refuse {α : Type} (message : String) : Reader α := do throw ⟨(← get).line, message⟩

def Source.next (s : Source) : Source :=
  match s.rest with
  | [] => s
  | '\n' :: rest => ⟨rest, s.line + 1 + s.skipped, 0⟩
  | _ :: rest => { s with rest }

def pass : Nat → Reader Unit
  | 0 => pure ()
  | n + 1 => do
    modify Source.next
    pass n

/-! ## Signs -/

def isBlank (c : Char) : Bool := c == ' ' || c == '\t'

def endsWord (c : Char) : Bool :=
  isBlank c || c == '\n' || c == ';' || c == '>' || c == '<' || c == '&' || c == '|' ||
    c == '(' || c == ')'

def isNameChar (c : Char) : Bool :=
  Text.isDigit c || ('a' ≤ c && c ≤ 'z') || ('A' ≤ c && c ≤ 'Z') || c == '_'

/-- Whether a text is a name: it has characters of names only, and the first is no digit. -/
def isName (s : List Char) : Bool :=
  match s with
  | [] => false
  | c :: _ => s.all isNameChar && !Text.isDigit c

inductive Sign where
  | ending
  | newline
  | semicolon
  | doubleSemicolon
  | ampersand
  | both
  | bar
  | either
  | opening
  | closing
  | redirection
  | word (raw : String)
  deriving DecidableEq, Repr

def Sign.ofText (s : List Char) : Sign :=
  match s with
  | [] => .ending
  | '\n' :: _ => .newline
  | ';' :: ';' :: _ => .doubleSemicolon
  | ';' :: _ => .semicolon
  | '&' :: '&' :: _ => .both
  | '&' :: _ => .ampersand
  | '|' :: '|' :: _ => .either
  | '|' :: _ => .bar
  | '(' :: _ => .opening
  | ')' :: _ => .closing
  | '<' :: _ | '>' :: _ => .redirection
  | _ =>
    match s.dropWhile Text.isDigit with
    | '<' :: _ | '>' :: _ => .redirection
    | _ => .word (String.ofList (s.takeWhile fun c => !endsWord c))

def reservedWords : List String :=
  ["!", "\x7b", "\x7d", "case", "do", "done", "elif", "else", "esac", "fi", "for", "if", "in", "then",
    "until", "while"]

def stopWords : List String := ["\x7d", "do", "done", "elif", "else", "esac", "fi", "then"]

def Sign.shown : Sign → String
  | ending => "end of file"
  | newline => "newline"
  | semicolon => "\";\""
  | doubleSemicolon => "\";;\""
  | ampersand => "\"&\""
  | both => "\"&&\""
  | bar => "\"|\""
  | either => "\"||\""
  | opening => "\"(\""
  | closing => "\")\""
  | redirection => "redirection"
  | word raw => if reservedWords.contains raw then "\"" ++ raw ++ "\"" else "word"

/-- Passes over blanks, joined lines and a comment. -/
def blanks : Nat → Reader Unit
  | 0 => pure ()
  | fuel + 1 => do
    match (← get).rest with
    | '\\' :: '\n' :: _ => do pass 2; blanks fuel
    | '#' :: comment => pass (1 + (comment.takeWhile (· != '\n')).length)
    | c :: _ => if isBlank c then do pass 1; blanks fuel
    | [] => pure ()

def sign : Reader Sign := do
  blanks ((← get).rest.length + 1)
  return Sign.ofText (← get).rest

def lineEnds : Nat → Reader Unit
  | 0 => pure ()
  | fuel + 1 => do
    if (← sign) = .newline then do pass 1; lineEnds fuel

def allLineEnds : Reader Unit := do lineEnds ((← get).rest.length + 1)

def unexpected {α : Type} (s : Sign) (expected : Option String) : Reader α :=
  refuse (s.shown ++ " unexpected" ++
    match expected with
    | some e => " (expecting \"" ++ e ++ "\")"
    | none => "")

def expect (word : String) : Reader Unit := do
  let s ← sign
  if s = .word word then pass word.length else unexpected s (some word)

def expectClosing : Reader Unit := do
  let s ← sign
  if s = .closing then pass 1 else unexpected s (some ")")

/-! ## Texts of redirections -/

def firstLine (s : List Char) : List Char × List Char :=
  (s.takeWhile (· != '\n'), (s.dropWhile (· != '\n')).drop 1)

/-- The lines before one that is the delimiter, how many lines were read, and the rest. With `indented`, tabs
at the front of lines do not count. -/
def delimited (indented : Bool) (delimiter : List Char) : Nat → List Char → List Char × Nat × List Char
  | 0, s => ([], 0, s)
  | _, [] => ([], 0, [])
  | fuel + 1, s =>
    let (first, after) := firstLine s
    let line := if indented then first.dropWhile (· == '\t') else first
    if line = delimiter then ([], 1, after)
    else if first = s then (line, 1, [])
    else
      let (body, count, rest) := delimited indented delimiter fuel after
      (line ++ '\n' :: body, count + 1, rest)

/-- Takes the text of a redirection out of the lines below. -/
def takeText (indented : Bool) (delimiter : List Char) : Reader (List Char) := do
  let s ← get
  let (line, after) := firstLine s.rest
  let (body, count, rest) := delimited indented delimiter (after.length + 1) after
  set { s with rest := line ++ '\n' :: rest, skipped := s.skipped + count }
  return body

end CompileDesk.Script
