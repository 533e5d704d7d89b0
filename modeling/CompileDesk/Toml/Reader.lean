import CompileDesk.Toml.Strings
import CompileDesk.Toml.Syntax

/-! # Cutting a text into statements

Every statement stands on a line of its own; blank lines and comments may stand anywhere between
statements. Inside the brackets of an array or an inline table line ends and comments count as blanks, and
a comma may follow the last item. Arrays and inline tables may stand inside one another up to a fixed
depth. A text without a fault in this respect is a list of statements, whatever its keys and values say.
-/

namespace CompileDesk.Toml

/-- How deep arrays and inline tables may stand inside one another. -/
def depthLimit : Nat := 80

def skipBlanks (s : List Char) : List Char := s.dropWhile isLineBlank

/-- Drops blanks, line ends and comments; the flag tells that a comment is under way. -/
def skipLayoutGo : Bool → List Char → Option (List Char)
  | _, [] => some []
  | _, '\n' :: rest => skipLayoutGo false rest
  | _, '\r' :: '\n' :: rest => skipLayoutGo false rest
  | false, c :: rest =>
    if isLineBlank c then skipLayoutGo false rest
    else if c == '#' then skipLayoutGo true rest
    else some (c :: rest)
  | true, c :: rest => if isPlain c then skipLayoutGo true rest else none

def skipLayout (s : List Char) : Option (List Char) := skipLayoutGo false s

/-- What may follow a statement on its line: blanks and a comment up to the line's end. -/
def endLine? (s : List Char) : Option (List Char) :=
  let s := skipBlanks s
  let s := match s with
    | '#' :: rest => rest.dropWhile isPlain
    | _ => s
  match s with
  | [] => some []
  | '\n' :: rest => some rest
  | '\r' :: '\n' :: rest => some rest
  | _ => none

/-! ## Lexemes and keys -/

def endsBare (c : Char) : Bool :=
  ['=', ',', '[', ']', '\x7b', '\x7d', ' ', '\t', '#', '\r', '\n', '\'', '"'].contains c

/-- Reads a lexeme between quotes, if the text begins with quotes. -/
def readQuoted? (s : List Char) : Option (Lexeme × List Char) :=
  let found (style : Style) (split : List Char × List Char) : Option (Lexeme × List Char) :=
    some (.quoted style split.1, split.2)
  match s with
  | '"' :: '"' :: '"' :: rest => found .longBasic (splitLong '"' true rest)
  | '\'' :: '\'' :: '\'' :: rest => found .longLiteral (splitLong '\'' false rest)
  | '"' :: rest => found .basic (splitBasic rest)
  | '\'' :: rest => found .literal (splitLiteral rest)
  | _ => none

/-- Reads a bare lexeme, which ends in front of the given characters. -/
def readBare? (ends : Char → Bool) (s : List Char) : Option (Lexeme × List Char) :=
  let text := s.takeWhile (!ends ·)
  if text.isEmpty then none else some (.bare text, s.dropWhile (!ends ·))

def readPart? (s : List Char) : Option (Lexeme × List Char) :=
  (readQuoted? s).or (readBare? (fun c => endsBare c || c == '.') s)

/-- Reads a key and drops the blanks after it. The fuel bounds the number of its parts. -/
def readKeyGo : Nat → List Char → Option (Key × List Char)
  | 0, _ => none
  | fuel + 1, s =>
    match readPart? (skipBlanks s) with
    | none => none
    | some (part, rest) =>
      match skipBlanks rest with
      | '.' :: more =>
        (readKeyGo fuel more).map fun (key, after) => (⟨part :: key.path, key.last⟩, after)
      | after => some (⟨[], part⟩, after)

def readKey? (s : List Char) : Option (Key × List Char) := readKeyGo (s.length + 1) s

def beginsLikeDate (s : List Char) : Bool :=
  (s.take 4).all Text.isDigit && (s.drop 4).head? == some '-'

def beginsLikeTime (s : List Char) : Bool :=
  (s.take 2).all Text.isDigit && (s.drop 2).head? == some ':'

/-- Reads a plain value. A bare date may be followed by a blank and a time of day. -/
def readPlain? (s : List Char) : Option (Lexeme × List Char) :=
  match readQuoted? s, readBare? endsBare s with
  | some found, _ => some found
  | none, some (.bare text, ' ' :: more) =>
    let time := more.takeWhile (!endsBare ·)
    if beginsLikeDate text && text.length == 10 && beginsLikeTime time then
      some (.bare (text ++ ' ' :: time), more.dropWhile (!endsBare ·))
    else some (.bare text, ' ' :: more)
  | none, found => found

/-! ## Values and statements -/

mutual

/-- Reads a value; so many arrays and inline tables may still stand inside one another. -/
def readForm? : Nat → Nat → List Char → Option (Form × List Char)
  | 0, _, _ => none
  | fuel + 1, room, s =>
    match s with
    | '[' :: rest =>
      if room = 0 then none
      else (readItems? fuel (room - 1) rest).map fun (items, after) => (.array items, after)
    | '\x7b' :: rest =>
      if room = 0 then none
      else (readEntries? fuel (room - 1) rest).map fun (entries, after) => (.table entries, after)
    | _ => (readPlain? s).map fun (lexeme, after) => (.plain lexeme, after)

def readItems? : Nat → Nat → List Char → Option (List Form × List Char)
  | 0, _, _ => none
  | fuel + 1, room, s =>
    match skipLayout s with
    | none => none
    | some (']' :: rest) => some ([], rest)
    | some item =>
      match readForm? fuel room item with
      | none => none
      | some (form, after) =>
        match skipLayout after with
        | some (',' :: more) =>
          (readItems? fuel room more).map fun (forms, after) => (form :: forms, after)
        | some (']' :: more) => some ([form], more)
        | _ => none

def readEntries? : Nat → Nat → List Char → Option (List (Key × Form) × List Char)
  | 0, _, _ => none
  | fuel + 1, room, s =>
    match skipLayout s with
    | none => none
    | some ('\x7d' :: rest) => some ([], rest)
    | some entry =>
      match readKey? entry with
      | none => none
      | some (key, after) =>
        match skipLayout after with
        | some ('=' :: value) =>
          match (skipLayout value).bind (readForm? fuel room) with
          | none => none
          | some (form, after) =>
            match skipLayout after with
            | some (',' :: more) =>
              (readEntries? fuel room more).map fun (entries, after) =>
                ((key, form) :: entries, after)
            | some ('\x7d' :: more) => some ([(key, form)], more)
            | _ => none
        | _ => none

end

def readStatement? (s : List Char) : Option (Statement × List Char) :=
  match s with
  | '[' :: '[' :: rest =>
    match readKey? rest with
    | some (key, ']' :: ']' :: after) => (endLine? after).map fun after => (.element key, after)
    | _ => none
  | '[' :: rest =>
    match readKey? rest with
    | some (key, ']' :: after) => (endLine? after).map fun after => (.header key, after)
    | _ => none
  | _ =>
    match readKey? s with
    | some (key, '=' :: after) =>
      match readForm? (2 * after.length + 2) depthLimit (skipBlanks after) with
      | some (form, after) => (endLine? after).map fun after => (.binding key form, after)
      | none => none
    | _ => none

def readStatements? : Nat → List Char → Option (List Statement)
  | 0, _ => none
  | fuel + 1, s =>
    match skipLayout s with
    | none => none
    | some [] => some []
    | some (c :: rest) =>
      match readStatement? (c :: rest) with
      | none => none
      | some (statement, after) => (readStatements? fuel after).map (statement :: ·)

/-- The statements of a text; a byte order mark in front of them is dropped. -/
def statements? (text : String) : Option (List Statement) :=
  let s := match text.toList with
    | '\uFEFF' :: rest => rest
    | s => s
  readStatements? (s.length + 1) s

end CompileDesk.Toml
