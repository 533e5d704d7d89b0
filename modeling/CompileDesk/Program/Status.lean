import CompileDesk.Program.Signal
import CompileDesk.Text.Natural

/-! # How programs end -/

namespace CompileDesk

/-- How a program ended: by itself with a number, or by a signal. -/
inductive ExitStatus where
  | code (number : Nat)
  | signal (number : Nat)
  deriving DecidableEq, Repr

namespace ExitStatus

def isSuccess : ExitStatus → Bool
  | code n => n == 0
  | signal _ => false

def number : ExitStatus → Nat
  | code n => n
  | signal n => 128 + n

def message : ExitStatus → String
  | code n => "exit status: " ++ Text.ofNat n
  | signal n =>
    "signal: " ++ Text.ofNat n ++
      match Signal.name? n with
      | some name => " (SIG" ++ name ++ ")"
      | none => ""

end ExitStatus
end CompileDesk
