import CompileDesk.Decimal.Binary64

/-! # JSON values

A number is an integer where it is written as one and lies between `-2 ^ 63` and `2 ^ 64 - 1`, else a
number of 64 bits. An object keeps its fields as they were written; of fields with one name the last
one counts.
-/

namespace CompileDesk

inductive JsonNumber where
  | integer (value : Int)
  | binary (value : Decimal.Binary64)
  deriving DecidableEq, Repr

inductive Json where
  | null
  | bool (value : Bool)
  | number (value : JsonNumber)
  | string (value : String)
  | array (items : List Json)
  | object (fields : List (String × Json))
  deriving Repr

namespace Json

def kind : Json → String
  | null => "null"
  | bool _ => "boolean"
  | number _ => "number"
  | string _ => "string"
  | array _ => "array"
  | object _ => "object"

def asString? : Json → Option String
  | string s => some s
  | _ => none

/-- The value of the last field with the given name. -/
def field? (fields : List (String × Json)) (name : String) : Option Json :=
  fields.reverse.lookup name

/-- A field written last is the one that counts. -/
@[simp] theorem field?_concat (fields : List (String × Json)) (name : String) (value : Json) :
    field? (fields ++ [(name, value)]) name = some value := by
  simp [field?]

end Json
end CompileDesk
