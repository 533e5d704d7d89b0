import CompileDesk.Json.Value
import Mathlib.Data.List.Nodup
import Mathlib.Data.List.Forall2
import Mathlib.Data.List.Induction
import Mathlib.Data.Option.Basic

/-!
# Objects as maps

An object is read by names, and of several fields with one name the last one counts. So the order of
fields with different names cannot be seen, and two values are the same when their objects agree
on what is found under each name, at every depth.
-/

namespace CompileDesk.Json

/-- The values of the fields with a name, in order. -/
def valuesOf (fields : List (String × Json)) (name : String) : List Json :=
  (fields.filter (·.1 == name)).map (·.2)

section ValuesOf

variable {f g : List (String × Json)} {name : String}

theorem valuesOf_append (f g : List (String × Json)) (name : String) :
    valuesOf (f ++ g) name = valuesOf f name ++ valuesOf g name := by
  simp [valuesOf]

theorem valuesOf_cons (field : String × Json) (f : List (String × Json)) (name : String) :
    valuesOf (field :: f) name = valuesOf [field] name ++ valuesOf f name :=
  valuesOf_append [field] f name

theorem valuesOf_cons_self (v : Json) (f : List (String × Json)) (name : String) :
    valuesOf ((name, v) :: f) name = v :: valuesOf f name := by
  simp [valuesOf]

theorem valuesOf_cons_of_ne {other : String} (h : other ≠ name) (v : Json)
    (f : List (String × Json)) : valuesOf ((other, v) :: f) name = valuesOf f name := by
  simp [valuesOf, h]

theorem length_valuesOf (f : List (String × Json)) (name : String) :
    (valuesOf f name).length = (f.map (·.1)).count name := by
  rw [valuesOf, List.length_map, List.count, List.countP_map, List.countP_eq_length_filter]
  rfl

theorem field?_eq_getLast? (f : List (String × Json)) (name : String) :
    field? f name = (valuesOf f name).getLast? := by
  induction f using List.reverseRecOn with
  | nil => rfl
  | append_singleton f field ih =>
    obtain ⟨other, v⟩ := field
    rw [valuesOf_append]
    by_cases h : other = name
    · subst h
      simp [valuesOf]
    · have differ : (name == other) = false := beq_false_of_ne (Ne.symm h)
      rw [valuesOf_cons_of_ne h, show valuesOf [] name = [] from rfl, List.append_nil, ← ih]
      simp [field?, List.lookup_cons, differ]

theorem field?_congr (h : valuesOf f name = valuesOf g name) : field? f name = field? g name := by
  rw [field?_eq_getLast?, field?_eq_getLast?, h]

theorem valuesOf_of_perm (perm : f.Perm g) (distinct : (g.map (·.1)).Nodup) (name : String) :
    valuesOf f name = valuesOf g name := by
  have values : (valuesOf f name).Perm (valuesOf g name) := (perm.filter _).map _
  have few : (valuesOf g name).length ≤ 1 := by
    rw [length_valuesOf]
    exact List.nodup_iff_count_le_one.mp distinct name
  match h : valuesOf g name with
  | [] => exact (h ▸ values).eq_nil
  | [v] => exact (h ▸ values).eq_singleton
  | v :: w :: rest => simp [h] at few

/-- Fields with different names may be put in any order. -/
theorem field?_of_perm (perm : f.Perm g) (distinct : (g.map (·.1)).Nodup) (name : String) :
    field? f name = field? g name :=
  field?_congr (valuesOf_of_perm perm distinct name)

end ValuesOf

/-- Two values that differ at most in the order of fields with different names, and in fields that a
later one with the same name hides. -/
inductive Same : Json → Json → Prop where
  | null : Same .null .null
  | bool (b : Bool) : Same (.bool b) (.bool b)
  | number (n : JsonNumber) : Same (.number n) (.number n)
  | string (s : String) : Same (.string s) (.string s)
  | array {items items' : List Json} (each : List.Forall₂ Same items items') :
      Same (.array items) (.array items')
  | object {fields fields' : List (String × Json)}
      (each : ∀ name, Option.Rel Same (field? fields name) (field? fields' name)) :
      Same (.object fields) (.object fields')

theorem mem_of_field?_eq_some {fields : List (String × Json)} {name : String} {v : Json}
    (h : field? fields name = some v) : (name, v) ∈ fields := by
  rw [field?_eq_getLast?] at h
  have there := List.mem_of_getLast? h
  simp only [valuesOf, List.mem_map, List.mem_filter, beq_iff_eq] at there
  obtain ⟨field, ⟨there, rfl⟩, rfl⟩ := there
  exact there

theorem Same.refl (v : Json) : Same v v := by
  match v with
  | .null => exact .null
  | .bool b => exact .bool b
  | .number n => exact .number n
  | .string s => exact .string s
  | .array items =>
    exact .array (List.forall₂_same.mpr fun item there =>
      have := List.sizeOf_lt_of_mem there
      Same.refl item)
  | .object fields =>
    refine .object fun name => ?_
    cases found : field? fields name with
    | none => exact .none
    | some w =>
      have smaller : sizeOf w < sizeOf fields := by
        have ofField := List.sizeOf_lt_of_mem (mem_of_field?_eq_some found)
        simp only [Prod.mk.sizeOf_spec] at ofField
        omega
      exact .some (Same.refl w)
termination_by v

theorem Same.of_perm {fields fields' : List (String × Json)} (perm : fields.Perm fields')
    (distinct : (fields'.map (·.1)).Nodup) : Same (.object fields) (.object fields') := by
  refine .object fun name => ?_
  rw [field?_of_perm perm distinct name]
  cases field? fields' name with
  | none => exact .none
  | some w => exact .some (Same.refl w)

end CompileDesk.Json
