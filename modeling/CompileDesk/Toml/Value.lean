import CompileDesk.Decimal.Shortest
import CompileDesk.Toml.Moment

/-! # TOML values

A table is kept as a list of its entries in the byte order of their keys, each key once. Two tables
with the same bindings are therefore equal.
-/

namespace CompileDesk

namespace Toml

inductive Real where
  | finite (value : Decimal.Binary64)
  | infinity (negative : Bool)
  | nan
  deriving DecidableEq, Repr

/-- The text of a floating-point value; a whole number ends in `.0`. -/
def Real.text : Real → List Char
  | finite x => x.plain
  | infinity negative => (if negative then "-inf" else "inf").toList
  | nan => "nan".toList

end Toml

inductive Toml where
  | string (value : String)
  | integer (value : Int)
  | real (value : Toml.Real)
  | boolean (value : Bool)
  | moment (value : Toml.Moment)
  | array (items : List Toml)
  | table (entries : List (String × Toml))
  deriving Repr

namespace Toml

abbrev Table := List (String × Toml)

def insert (key : String) (value : Toml) : Table → Table
  | [] => [(key, value)]
  | (k, v) :: rest =>
    if key = k then (key, value) :: rest
    else if key < k then (key, value) :: (k, v) :: rest
    else (k, v) :: insert key value rest

/-- The text bound to a key, if there is one. -/
def text? (t : Table) (key : String) : Option String :=
  match t.lookup key with
  | some (.string s) => some s
  | _ => none

def isTable : Toml → Bool
  | table _ => true
  | _ => false

@[simp] theorem lookup_insert_self (key : String) (value : Toml) (t : Table) :
    (insert key value t).lookup key = some value := by
  induction t with
  | nil => simp [insert]
  | cons entry rest ih =>
    obtain ⟨k, v⟩ := entry
    unfold insert
    split
    · simp
    · split
      · simp
      · next h _ =>
        have other : (key == k) = false := by simpa using h
        simp [List.lookup_cons, other, ih]

end Toml
end CompileDesk
