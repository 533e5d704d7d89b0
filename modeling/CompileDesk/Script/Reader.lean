import CompileDesk.Script.Quoting

/-! # Reading scripts

A script is read character by character: lists of commands, pipelines, single commands, words, pieces of
words. Reading a piece may begin all over again, since the output of commands can stand inside a word. The
fuel bounds the depth and the length of what is read.
-/

namespace CompileDesk.Script

mutual

/-- Reads pieces up to where they end; what ends them is passed over, except after a word. -/
def pieces : Nat → Mode → Reader (List Piece)
  | 0, _ => pure []
  | fuel + 1, m => do
    match (← get).rest with
    | [] =>
      match m with
      | .word | .text => return []
      | .double => refuse "Unterminated quoted string"
      | .operand _ => refuse "Missing '\x7d'"
    | c :: _ =>
      if m.isEnd c then do
        unless m = .word do pass 1
        return []
      else
        pass 1
        let first ← piece fuel m c
        return first ++ (← pieces fuel m)

def piece : Nat → Mode → Char → Reader (List Piece)
  | 0, _, _ => pure []
  | fuel + 1, m, c =>
    match c, m with
    | '\\', _ => escaped m
    | '\'', .word | '\'', .operand false => return [.text (← upToQuote '\'') true]
    | '"', .word | '"', .operand _ => do
      match ← pieces fuel .double with
      | [.parameter ['@'] .value _ _] => return [.parameter ['@'] .value [] true]
      | inner => return .text [] true :: inner
    | '$', _ => expansion fuel m.isQuoted
    | '`', _ => do
      match upToBackquote m.isQuoted (← get).rest with
      | none => refuse "EOF in backquote substitution"
      | some (inside, count) =>
        let line := (← get).line
        pass count
        match (commands fuel).run ⟨inside, line, 0⟩ with
        | .ok (body, _) => return [.output body m.isQuoted]
        | .error fault => throw fault
    | _, _ => return [.text [c] m.isQuoted]

def expansion : Nat → Bool → Reader (List Piece)
  | 0, _ => pure []
  | fuel + 1, quoted => do
    match (← get).rest with
    | '(' :: '(' :: rest =>
      match upToTwoClosing 0 rest with
      | some inside =>
        pass (inside.length + 4)
        match (pieces fuel .text).run ⟨inside, (← get).line, 0⟩ with
        | .ok (expression, _) => return [.arithmetic expression quoted]
        | .error fault => throw fault
      | none => refuse "Missing '))'"
    | '(' :: _ =>
      pass 1
      let body ← commands fuel
      expectClosing
      return [.output body quoted]
    | '\x7b' :: '#' :: c :: _ =>
      if c == '\x7d' then do
        pass 3
        return [.parameter ['#'] .value [] quoted]
      else
        pass 2
        let name ← parameterName
        let isWhole := !name.isEmpty && (← get).rest.head? == some '\x7d'
        return [.parameter name (if isWhole then .length else .unknown)
          (← pieces fuel (.operand quoted)) quoted]
    | '\x7b' :: _ =>
      pass 1
      let name ← parameterName
      let modifier ← if name.isEmpty then pure .unknown else modifier
      return [.parameter name modifier (← pieces fuel (.operand quoted)) quoted]
    | c :: _ =>
      if isNameChar c || "@*#?$!-".toList.contains c then
        let name ← if Text.isDigit c then do
            pass 1
            pure [c]
          else parameterName
        return [.parameter name .value [] quoted]
      else return [.text ['$'] quoted]
    | [] => return [.text ['$'] quoted]

def redirection : Nat → Reader Redirection
  | 0 => refuse "redirection unexpected"
  | fuel + 1 => do
    let line := (← get).line
    let digits := (← get).rest.takeWhile Text.isDigit
    pass digits.length
    let stream (default : Nat) : Nat := if digits.isEmpty then default else Text.natural digits
    match (← get).rest with
    | '<' :: '<' :: '-' :: _ =>
      pass 3
      return .mk line (stream 0) .fromText (← text fuel true)
    | '<' :: '<' :: _ =>
      pass 2
      return .mk line (stream 0) .fromText (← text fuel false)
    | '<' :: '&' :: _ =>
      pass 2
      return .mk line (stream 0) .toStream (← target fuel)
    | '<' :: _ =>
      pass 1
      return .mk line (stream 0) .fromFile (← target fuel)
    | '>' :: '>' :: _ =>
      pass 2
      return .mk line (stream 1) .toFileEnd (← target fuel)
    | '>' :: '&' :: _ =>
      pass 2
      return .mk line (stream 1) .toStream (← target fuel)
    | '>' :: '|' :: _ =>
      pass 2
      return .mk line (stream 1) .toFile (← target fuel)
    | _ =>
      pass 1
      return .mk line (stream 1) .toFile (← target fuel)

def target : Nat → Reader Word
  | 0 => pure []
  | fuel + 1 => do
    match ← sign with
    | .word _ => pieces fuel .word
    | s => unexpected s none

/-- Reads the text of a redirection, whose delimiter comes next. In a text after a quoted delimiter nothing
is expanded. -/
def text : Nat → Bool → Reader Word
  | 0, _ => pure []
  | fuel + 1, indented => do
    let delimiter ← target fuel
    let body ← takeText indented (plainText delimiter)
    if delimiter.any Piece.isQuoted then return [.text body true]
    else
      match (pieces fuel .text).run ⟨body, (← get).line + 1, 0⟩ with
      | .ok (word, _) => return word
      | .error fault => throw fault

def simple : Nat → Reader (List Word × List Redirection)
  | 0 => pure ([], [])
  | fuel + 1 => do
    match ← sign with
    | .word _ =>
      let word ← pieces fuel .word
      let (words, redirections) ← simple fuel
      return (word :: words, redirections)
    | .redirection =>
      let r ← redirection fuel
      let (words, redirections) ← simple fuel
      return (words, r :: redirections)
    | _ => return ([], [])

def redirections : Nat → Reader (List Redirection)
  | 0 => pure []
  | fuel + 1 => do
    match ← sign with
    | .redirection =>
      let r ← redirection fuel
      return r :: (← redirections fuel)
    | _ => return []

def redirected : Nat → Command → Reader Command
  | 0, c => pure c
  | fuel + 1, c => do
    match ← redirections fuel with
    | [] => return c
    | rs => return .redirected c rs

def loopWords : Nat → Reader (List Word)
  | 0 => pure []
  | fuel + 1 => do
    match ← sign with
    | .word _ =>
      let word ← pieces fuel .word
      return word :: (← loopWords fuel)
    | .semicolon => pass 1; return []
    | .newline => return []
    | s => unexpected s none

def patterns : Nat → Reader (List Word)
  | 0 => pure []
  | fuel + 1 => do
    match ← sign with
    | .word _ =>
      let word ← pieces fuel .word
      match ← sign with
      | .bar => pass 1; return word :: (← patterns fuel)
      | .closing => pass 1; return [word]
      | s => unexpected s (some ")")
    | s => unexpected s none

def cases : Nat → Reader (List Case)
  | 0 => pure []
  | fuel + 1 => do
    allLineEnds
    match ← sign with
    | .word "esac" => pass 4; return []
    | s =>
      if s = .opening then pass 1
      let patterns ← patterns fuel
      let body ← commands fuel
      match ← sign with
      | .doubleSemicolon =>
        pass 2
        return .mk patterns body :: (← cases fuel)
      | _ =>
        expect "esac"
        return [.mk patterns body]

/-- Reads the rest of a conditional after its test. -/
def branches : Nat → List Command → Reader Command
  | 0, test => pure (.branch test [] [])
  | fuel + 1, test => do
    expect "then"
    let yes ← block fuel
    match ← sign with
    | .word "elif" =>
      pass 4
      let next ← block fuel
      return .branch test yes [← branches fuel next]
    | .word "else" =>
      pass 4
      let no ← block fuel
      expect "fi"
      return .branch test yes no
    | _ =>
      expect "fi"
      return .branch test yes []

def loopBody : Nat → Reader (List Command)
  | 0 => pure []
  | fuel + 1 => do
    expect "do"
    let body ← block fuel
    expect "done"
    return body

def wordCommand : Nat → String → Reader Command
  | 0, _ => pure (.group [])
  | fuel + 1, word => do
    match word with
    | "if" =>
      pass 2
      branches fuel (← block fuel)
    | "while" =>
      pass 5
      let test ← block fuel
      return .loop false test (← loopBody fuel)
    | "until" =>
      pass 5
      let test ← block fuel
      return .loop true test (← loopBody fuel)
    | "for" =>
      pass 3
      let name ← match ← sign with
        | .word _ => pure (plainText (← pieces fuel .word))
        | _ => pure []
      unless isName name do refuse "Bad for loop variable"
      allLineEnds
      match ← sign with
      | .word "in" =>
        pass 2
        let words ← loopWords fuel
        allLineEnds
        return .each name words (← loopBody fuel)
      | s =>
        if s = .semicolon then pass 1
        allLineEnds
        return .each name [[.parameter ['@'] .value [] true]] (← loopBody fuel)
    | "case" =>
      pass 4
      let subject ← target fuel
      allLineEnds
      expect "in"
      return .choice subject (← cases fuel)
    | "\x7b" =>
      pass 1
      let body ← block fuel
      expect "\x7d"
      return .group body
    | _ =>
      if reservedWords.contains word then unexpected (.word word) none
      let line := (← get).line
      let (words, redirections) ← simple fuel
      match words, ← sign with
      | [name], .opening =>
        if (assignedName? name).isSome then unexpected .opening none
        pass 1
        expectClosing
        allLineEnds
        let name := plainText name
        unless isName name do refuse "Bad function name"
        return .define name (← command fuel)
      | _, .opening => unexpected .opening none
      | _, _ => return .simple line words redirections

def command : Nat → Reader Command
  | 0 => pure (.group [])
  | fuel + 1 => do
    match ← sign with
    | .word word =>
      let c ← wordCommand fuel word
      match c with
      | .simple _ _ _ | .define _ _ => return c
      | _ => redirected fuel c
    | .redirection =>
      let line := (← get).line
      let (words, redirections) ← simple fuel
      return .simple line words redirections
    | .opening =>
      pass 1
      let body ← block fuel
      expectClosing
      redirected fuel (.apart body)
    | s => unexpected s none

def parts : Nat → Reader (List Command)
  | 0 => pure []
  | fuel + 1 => do
    let first ← command fuel
    match ← sign with
    | .bar =>
      pass 1
      allLineEnds
      return first :: (← parts fuel)
    | _ => return [first]

def pipeline : Nat → Reader Command
  | 0 => pure (.group [])
  | fuel + 1 => do
    match ← sign with
    | .word "!" =>
      pass 1
      return .inverted (← pipeline fuel)
    | _ =>
      match ← parts fuel with
      | [only] => return only
      | several => return .pipeline several

def joinedTo : Nat → Command → Reader Command
  | 0, c => pure c
  | fuel + 1, c => do
    match ← sign with
    | .both =>
      pass 2
      allLineEnds
      joinedTo fuel (.both c (← pipeline fuel))
    | .either =>
      pass 2
      allLineEnds
      joinedTo fuel (.either c (← pipeline fuel))
    | _ => return c

def line : Nat → Reader (List Command)
  | 0 => pure []
  | fuel + 1 => do
    let c ← joinedTo fuel (← pipeline fuel)
    match ← sign with
    | .semicolon => pass 1; return c :: (← lineRest fuel)
    | .ampersand => pass 1; return .background c :: (← lineRest fuel)
    | .newline => pass 1; return [c]
    | _ => return [c]

def lineRest : Nat → Reader (List Command)
  | 0 => pure []
  | fuel + 1 => do
    match ← sign with
    | .newline => pass 1; return []
    | .ending | .closing | .doubleSemicolon => return []
    | .word word => if stopWords.contains word then return [] else line fuel
    | _ => line fuel

/-- Reads commands up to something that ends them, which stays. -/
def commands : Nat → Reader (List Command)
  | 0 => pure []
  | fuel + 1 => do
    allLineEnds
    match ← sign with
    | .ending | .closing | .doubleSemicolon => return []
    | s =>
      match s with
      | .word word => if stopWords.contains word then return []
      | _ => pure ()
      let first ← line fuel
      return first ++ (← commands fuel)

/-- Reads commands of which there has to be at least one, unless the script ends there. -/
def block : Nat → Reader (List Command)
  | 0 => pure []
  | fuel + 1 => do
    match ← commands fuel with
    | [] =>
      match ← sign with
      | .ending => return []
      | s => unexpected s none
    | body => return body

end

/-- Reads a script line by line. What cannot be read is a broken command at the end. -/
def readLines (fuel : Nat) : Nat → Source → List Command
  | 0, _ => []
  | lines + 1, s =>
    let reader : Reader (Option (List Command)) := do
      allLineEnds
      match ← sign with
      | .ending => return none
      | _ =>
        let found ← line fuel
        match ← sign with
        | .closing => unexpected .closing none
        | .doubleSemicolon => unexpected .doubleSemicolon none
        | .word word => if stopWords.contains word then unexpected (.word word) none
        | _ => pure ()
        return some found
    match reader.run s with
    | .ok (some found, rest) => found ++ readLines fuel lines rest
    | .ok (none, _) => []
    | .error fault => [.broken fault.line fault.message]

/-- The commands of a script. Zero characters are passed over. -/
def parse (script : List Char) : List Command :=
  let script := script.filter (· != '\x00')
  readLines (16 * (script.length + 4)) (script.length + 1) ⟨script, 1, 0⟩

end CompileDesk.Script
