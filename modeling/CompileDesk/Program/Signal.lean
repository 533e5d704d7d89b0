import CompileDesk.Text.Natural

/-! # Signals

A signal has a number, and the signals that every system knows have a name. The signals after them are counted
from the first or the last one. Some signals do nothing to a program that has made no arrangements for them.
-/

namespace CompileDesk.Signal

def names : List String :=
  ["HUP", "INT", "QUIT", "ILL", "TRAP", "ABRT", "BUS", "FPE", "KILL", "USR1", "SEGV", "USR2", "PIPE",
    "ALRM", "TERM", "STKFLT", "CHLD", "CONT", "STOP", "TSTP", "TTIN", "TTOU", "URG", "XCPU", "XFSZ",
    "VTALRM", "PROF", "WINCH", "IO", "PWR", "SYS"]

def greatest : Nat := 64

def name? (number : Nat) : Option String :=
  match number with
  | 0 => none
  | n + 1 => names[n]?

/-- The first of the signals that are counted, and the number of those counted from it. -/
def firstCounted : Nat := 34

/-- How many signals are counted from the first one. -/
def countedFromFirst : Nat := 16

def scriptName? (number : Nat) : Option String :=
  if number = 16 || number = 32 || number = 33 then some (Text.ofNat number)
  else if number = firstCounted then some "RTMIN"
  else if number = greatest then some "RTMAX"
  else if greatest < number then none
  else if firstCounted + countedFromFirst ≤ number then some ("RTMAX-" ++ Text.ofNat (greatest - number))
  else if firstCounted < number then some ("RTMIN+" ++ Text.ofNat (number - firstCounted))
  else name? number

/-- The number of a signal that a script names; zero is the end of the script. -/
def number? (name : String) : Option Nat :=
  if name == "EXIT" then some 0
  else (List.range (greatest + 1)).find? fun n => scriptName? n == some name

/-- Whether no program can make arrangements for a signal. -/
def isUnstoppable (number : Nat) : Bool := name? number == some "KILL" || name? number == some "STOP"

/-- Whether a signal does nothing by itself. -/
def isIdle (number : Nat) : Bool :=
  match name? number with
  | some name => ["CHLD", "CONT", "URG", "WINCH"].contains name
  | none => number == 0

end CompileDesk.Signal
