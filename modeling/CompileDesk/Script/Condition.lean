import CompileDesk.Script.State

/-! # Conditions of scripts

The command `test` evaluates a condition on texts, numbers and files that is given by its arguments. A
condition on numbers has no value when an argument is no number.
-/

namespace CompileDesk.Script.Condition

def unary : List String :=
  ["-n", "-z", "-e", "-f", "-d", "-s", "-r", "-w", "-x", "-h", "-L", "-t", "-b", "-c", "-g", "-k", "-p", "-u",
    "-G", "-O", "-S"]

def binary : List String :=
  ["=", "!=", "<", ">", "-eq", "-ne", "-lt", "-le", "-gt", "-ge", "-nt", "-ot", "-ef"]

def contentAt (s : State) (path : List Char) : ByteArray :=
  (s.files.readBytes (s.path path)).toOption.getD .empty

def isRunnable (s : State) (path : List Char) : Bool :=
  match s.files.at? (s.path path) with
  | some (.file _ executable) => executable
  | some .device | none => false
  | some _ => true

def ofOne (s : State) (operator : String) (a : List Char) : Bool :=
  match operator with
  | "-n" => !a.isEmpty
  | "-z" => a.isEmpty
  | "-c" =>
    match s.files.at? (s.path a) with
    | some .device => true
    | _ => false
  | "-e" | "-r" | "-w" | "-G" | "-O" => s.files.pathExists (s.path a)
  | "-f" => s.files.isFile (s.path a)
  | "-d" => s.files.isFolder (s.path a)
  | "-s" => !(contentAt s a).isEmpty || s.files.isFolder (s.path a)
  | "-x" => isRunnable s a
  | _ => false

def integer? (s : List Char) : Option Int :=
  let s := s.filter fun c => c != ' '
  match s with
  | '-' :: digits => if !digits.isEmpty && digits.all Text.isDigit then some (-Text.natural digits) else none
  | '+' :: digits | digits =>
    if !digits.isEmpty && digits.all Text.isDigit then some (Text.natural digits : Int) else none

def illegalNumber (a : List Char) : String := "Illegal number: " ++ String.ofList a

def ofTwo (operator : String) (a b : List Char) : Except String Bool :=
  match operator with
  | "=" => .ok (a == b)
  | "!=" => .ok (a != b)
  | "<" => .ok (String.ofList a < String.ofList b)
  | ">" => .ok (String.ofList b < String.ofList a)
  | "-nt" | "-ot" | "-ef" => .ok false
  | _ =>
    match integer? a, integer? b with
    | none, _ => .error (illegalNumber a)
    | _, none => .error (illegalNumber b)
    | some m, some n =>
      .ok (match operator with
        | "-eq" => m == n
        | "-ne" => m != n
        | "-lt" => m < n
        | "-le" => m ≤ n
        | "-gt" => n < m
        | _ => n ≤ m)

mutual

def single (s : State) : Nat → List (List Char) → Except String (Bool × List (List Char))
  | 0, args => .ok (false, args)
  | _, [] => .ok (false, [])
  | fuel + 1, a :: rest =>
    match rest with
    | op :: b :: after =>
      if binary.contains (String.ofList op) then
        (ofTwo (String.ofList op) a b).map fun holds => (holds, after)
      else unaryOr s fuel a rest
    | _ => unaryOr s fuel a rest

/-- Evaluates a condition that begins with no comparison. -/
def unaryOr (s : State) : Nat → List Char → List (List Char) →
    Except String (Bool × List (List Char))
  | 0, a, rest => .ok (!a.isEmpty, rest)
  | fuel + 1, a, rest =>
    match rest with
    | [] => .ok (!a.isEmpty, [])
    | b :: after =>
      if a == ['!'] then (single s fuel rest).map fun (holds, left) => (!holds, left)
      else if a == ['('] then
        (alternatives s fuel rest).map fun (holds, left) => (holds, left.drop 1)
      else if unary.contains (String.ofList a) then .ok (ofOne s (String.ofList a) b, after)
      else .ok (!a.isEmpty, rest)

def conjunction (s : State) : Nat → List (List Char) → Except String (Bool × List (List Char))
  | 0, args => .ok (false, args)
  | fuel + 1, args =>
    (single s fuel args).bind fun (holds, left) =>
      match left with
      | ['-', 'a'] :: more => (conjunction s fuel more).map fun (both, left) => (holds && both, left)
      | _ => .ok (holds, left)

def alternatives (s : State) : Nat → List (List Char) → Except String (Bool × List (List Char))
  | 0, args => .ok (false, args)
  | fuel + 1, args =>
    (conjunction s fuel args).bind fun (holds, left) =>
      match left with
      | ['-', 'o'] :: more => (alternatives s fuel more).map fun (either, left) => (holds || either, left)
      | _ => .ok (holds, left)

end

def holds (s : State) (args : List (List Char)) : Except String Bool :=
  (alternatives s (4 * (args.length + 1)) args).bind fun (holds, left) =>
    match left with
    | [] => .ok holds
    | extra :: _ => .error (String.ofList extra ++ ": unexpected operator")

end CompileDesk.Script.Condition
