import CompileDesk.Text.Blank

/-! # Symbols of a compiled program -/

namespace CompileDesk

structure Symbol where
  name : String
  kind : String
  scope : String
  address : Option String
  deriving DecidableEq, Repr

def missingAddress : String := "N/A"

/-- The address as it is shown: a missing or blank one is replaced. -/
def Symbol.displayAddress (s : Symbol) : String :=
  match s.address with
  | some address => if Text.blank address then missingAddress else address
  | none => missingAddress

end CompileDesk
