import CompileDesk.Text.Natural

/-! # Arithmetic of scripts

An expression has numbers, variables, signs, operators, conditions and assignments. It is read as a tree, one
level of precedence after the other; the tree is evaluated over words of 64 bits, with the values of variables
given. Evaluation tells which variables were assigned to.
-/

namespace CompileDesk.Script.Arithmetic

inductive Fault where
  | noPrimary
  | trailing
  | unclosed
  | noColon
  | divisionByZero
  | noNumber (text : List Char)
  deriving DecidableEq, Repr

def Fault.message (expression : List Char) (f : Fault) : String :=
  let within (what : String) : String :=
    "arithmetic expression: " ++ what ++ ": \"" ++ String.ofList expression ++ "\""
  match f with
  | noPrimary => within "expecting primary"
  | trailing => within "expecting EOF"
  | unclosed => within "expecting ')'"
  | noColon => within "expecting ':'"
  | divisionByZero => within "division by zero"
  | noNumber text => "Illegal number: " ++ String.ofList text

/-- An expression. An assignment may combine the old value with the new one. -/
inductive Expression where
  | number (n : Int64)
  | parameter (name : List Char)
  | signed (sign : Char) (a : Expression)
  | combined (operator : String) (a b : Expression)
  | choice (test yes no : Expression)
  | assigned (name : List Char) (operator : Option String) (a : Expression)
  deriving DecidableEq, Repr

/-! ## Reading -/

/-- An expression without blanks at its front. -/
def skip (s : List Char) : List Char := s.dropWhile fun c => c == ' ' || c == '\t' || c == '\n'

def digit? (base : Nat) (c : Char) : Option Nat :=
  (Text.hexValue? c).bind fun n => if n < base then some n else none

def ofDigits (base : Nat) (s : List Char) : Nat :=
  s.foldl (fun n c => n * base + (digit? base c).getD 0) 0

/-- The word of a natural number; beyond the greatest word it is that one. -/
def word (n : Nat) : Int64 :=
  if n ≤ Int64.maxValue.toNatClampNeg then Int64.ofNat n else Int64.maxValue

def number? (s : List Char) : Option (Int64 × List Char) :=
  let read (base : Nat) (s : List Char) : Int64 × List Char :=
    (word (ofDigits base (s.takeWhile fun c => (digit? base c).isSome)),
      s.dropWhile fun c => (digit? base c).isSome)
  match s with
  | '0' :: 'x' :: rest | '0' :: 'X' :: rest => some (read 16 rest)
  | '0' :: rest => some (read 8 ('0' :: rest))
  | c :: _ => if Text.isDigit c then some (read 10 s) else none
  | [] => none

def nameAt (s : List Char) : List Char :=
  let name := s.takeWhile fun c =>
    Text.isDigit c || ('a' ≤ c && c ≤ 'z') || ('A' ≤ c && c ≤ 'Z') || c == '_'
  if (name.head?.map Text.isDigit).getD true then [] else name

/-- The operators of each level of precedence, from the loosest to the tightest. -/
def levels : List (List String) :=
  [["||"], ["&&"], ["|"], ["^"], ["&"], ["==", "!="], ["<=", ">=", "<", ">"], ["<<", ">>"], ["+", "-"],
    ["*", "/", "%"]]

def assignments : List String := ["=", "*=", "/=", "%=", "+=", "-=", "<<=", ">>=", "&=", "^=", "|="]

def operatorAt? (s : List Char) : Option String :=
  let found := (assignments ++ levels.flatten).filter fun o => o.toList.isPrefixOf s
  found.find? fun o => found.all fun other => other.length ≤ o.length

def oneOf? (operators : List String) (s : List Char) : Option (String × List Char) :=
  match operatorAt? (skip s) with
  | some o => if operators.contains o then some (o, (skip s).drop o.length) else none
  | none => none

abbrev Reading := List Char → Except Fault (Expression × List Char)

mutual

def primary : Nat → Reading
  | 0, _ => .error .noPrimary
  | fuel + 1, s =>
    match skip s with
    | '+' :: rest => primary fuel rest
    | '(' :: rest =>
      (assignment fuel rest).bind fun (a, after) =>
        match skip after with
        | ')' :: after => .ok (a, after)
        | _ => .error .unclosed
    | s =>
      match s, number? s with
      | _, some (n, after) => .ok (.number n, after)
      | [], none => .error .noPrimary
      | c :: rest, none =>
        if c == '-' || c == '!' || c == '~' then
          (primary fuel rest).map fun (a, after) => (.signed c a, after)
        else
          let name := nameAt s
          if name.isEmpty then .error .noPrimary else .ok (.parameter name, s.drop name.length)

def chain : Nat → List (List String) → Reading
  | 0, _, _ => .error .noPrimary
  | fuel + 1, [], s => primary fuel s
  | fuel + 1, level :: tighter, s =>
    (chain fuel tighter s).bind fun (a, after) => chainRest fuel level tighter a after

def chainRest : Nat → List String → List (List String) → Expression → Reading
  | 0, _, _, _, _ => .error .noPrimary
  | fuel + 1, level, tighter, a, s =>
    match oneOf? level s with
    | none => .ok (a, s)
    | some (operator, rest) =>
      (chain fuel tighter rest).bind fun (b, after) =>
        chainRest fuel level tighter (.combined operator a b) after

def choice : Nat → Reading
  | 0, _ => .error .noPrimary
  | fuel + 1, s =>
    (chain fuel levels s).bind fun (test, after) =>
      match skip after with
      | '?' :: after =>
        (assignment fuel after).bind fun (yes, after) =>
          match skip after with
          | ':' :: after => (choice fuel after).map fun (no, after) => (.choice test yes no, after)
          | _ => .error .noColon
      | _ => .ok (test, after)

def assignment : Nat → Reading
  | 0, _ => .error .noPrimary
  | fuel + 1, s =>
    let name := nameAt (skip s)
    match if name.isEmpty then none else oneOf? assignments ((skip s).drop name.length) with
    | some (sign, after) =>
      let operator := if sign == "=" then none else some (String.ofList sign.toList.dropLast)
      (assignment fuel after).map fun (a, after) => (.assigned name operator a, after)
    | none => choice fuel s

end

/-- Reads a whole text; an empty one is zero. -/
def Expression.ofText (s : List Char) : Except Fault Expression :=
  if (skip s).isEmpty then .ok (.number 0)
  else
    (assignment (16 * (s.length + 1)) s).bind fun (a, after) =>
      if (skip after).isEmpty then .ok a else .error .trailing

/-! ## Evaluating -/

def ofBool (b : Bool) : Int64 := if b then 1 else 0

def apply (operator : String) (a b : Int64) : Except Fault Int64 :=
  match operator with
  | "|" => .ok (a ||| b)
  | "^" => .ok (a ^^^ b)
  | "&" => .ok (a &&& b)
  | "==" => .ok (ofBool (a == b))
  | "!=" => .ok (ofBool (a != b))
  | "<=" => .ok (ofBool (a ≤ b))
  | ">=" => .ok (ofBool (b ≤ a))
  | "<" => .ok (ofBool (a < b))
  | ">" => .ok (ofBool (b < a))
  | "<<" => .ok (a <<< b)
  | ">>" => .ok (a >>> b)
  | "+" => .ok (a + b)
  | "-" => .ok (a - b)
  | "*" => .ok (a * b)
  | "/" => if b = 0 then .error .divisionByZero else .ok (a / b)
  | "%" => if b = 0 then .error .divisionByZero else .ok (a % b)
  | _ => .error .noPrimary

def ofValue (s : List Char) : Except Fault Int64 :=
  let (negative, digits) := match skip s with
    | '-' :: digits => (true, digits)
    | '+' :: digits | digits => (false, digits)
  match number? digits with
  | some (n, after) =>
    if (skip after).isEmpty then .ok (if negative then -n else n) else .error (.noNumber s)
  | none => if (skip s).isEmpty then .ok 0 else .error (.noNumber s)

abbrev Assigned := List (List Char × Int64)

abbrev Evaluation := StateT Assigned (Except Fault)

def valueOf (v : List Char → List Char) (name : List Char) : Evaluation Int64 := do
  match (← get).lookup name with
  | some n => return n
  | none => ofValue (v name)

/-- Evaluates an expression. The second side of a logical operator is evaluated only if it decides. -/
def Expression.evaluate (v : List Char → List Char) : Expression → Evaluation Int64
  | number n => return n
  | parameter name => valueOf v name
  | signed sign a => do
    let n ← a.evaluate v
    return if sign == '-' then -n else if sign == '~' then ~~~n else ofBool (n == 0)
  | combined operator a b => do
    let n ← a.evaluate v
    if operator == "||" then
      if n != 0 then return 1 else return ofBool ((← b.evaluate v) != 0)
    else if operator == "&&" then
      if n == 0 then return 0 else return ofBool ((← b.evaluate v) != 0)
    else apply operator n (← b.evaluate v)
  | choice test yes no => do
    if (← test.evaluate v) != 0 then yes.evaluate v else no.evaluate v
  | assigned name operator a => do
    let n ← a.evaluate v
    let n ← match operator with
      | some o => do apply o (← valueOf v name) n
      | none => pure n
    modify ((name, n) :: ·)
    return n

def evaluate (v : List Char → List Char) (s : List Char) : Except Fault (Int64 × Assigned) :=
  (Expression.ofText s).bind fun e => (e.evaluate v).run []

end CompileDesk.Script.Arithmetic
