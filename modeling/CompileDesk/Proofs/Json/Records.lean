import CompileDesk.Proofs.Json.Objects
import CompileDesk.Proofs.Json.Skipping

/-!
# A record is read as the value is

A record is read straight out of a text, with its other fields skipped. Where the text is that of an object,
the record is the one that its fields give, in their order: the reader of records and the one of values see the
same names and contents.
-/

namespace CompileDesk.Json

variable {s after : List Char}

/-- The content of a slot with a value, if it may have that. -/
def slotContent? (slot : Slot) : Json → Option (Option String)
  | .string text => some (some text)
  | .null => if slot.nullable then some none else none
  | _ => none

/-- What a record finds in the fields of an object. -/
def gathered (slots : List Slot) : Found → List (String × Json) → Option Found
  | found, [] => some found
  | found, (name, v) :: fields =>
    match slots.find? (·.name == name) with
    | some slot =>
      if (found.lookup name).isSome then none
      else (slotContent? slot v).bind fun content => gathered slots (found ++ [(name, content)]) fields
    | none => gathered slots found fields

section Records

variable {fuel depth : Nat} {first : Bool} {v : Json} {c : Char}

theorem readSlot_of_readValue (read : readValue fuel depth s = .ok (v, after)) (slot : Slot) :
    readSlot slot s = (slotContent? slot v).map (·, after) := by
  cases fuel with
  | zero => cases read
  | succ fuel =>
    obtain ⟨c, rest, front, read⟩ := readValue_cases read
    rw [readSlot, front]
    cases read with
    | null letters =>
      rw [slotContent?]
      cases slot.nullable with
      | false => rfl
      | true => exact congrArg (fun r => (Except.toOption r).map fun after => (none, after)) letters
    | string content =>
      exact congrArg (fun r => (Except.toOption r).map fun p => (some p.1, p.2)) content
    | number digit =>
      have other {d : Char} := beq_of_isDigit (d := d) digit
      simp [other (d := '"') (by decide), other (d := 'n') (by decide), slotContent?]
    | _ => rfl

theorem readRecordFields_end (ends : skipSpace s = '\x7d' :: after) (slots : List Slot) (fuel : Nat)
    (first : Bool) (found : Found) :
    readRecordFields slots (fuel + 1) first found s = some (found, after) := by
  rw [readRecordFields, ends]
  rfl

/-- How a record is read on from the value of a field: a slot is filled once, another field is skipped. -/
def readField (slots : List Slot) (fuel : Nat) (found : Found) (name : String) (value : List Char) :
    Option (Found × List Char) :=
  match slots.find? (·.name == name) with
  | some slot =>
    if (found.lookup name).isSome then none
    else (readSlot slot value).bind fun (content, rest) =>
      readRecordFields slots fuel false (found ++ [(name, content)]) rest
  | none => (skipValue (fuelFor value) value).bind (readRecordFields slots fuel false found)

theorem readRecordFields_of_begins {more mid value : List Char} {name : String}
    (begins : Begins first s ('"' :: more)) (key : readString more = .ok (name, mid))
    (colon : skipSpace mid = ':' :: value) (slots : List Slot) (fuel : Nat) (found : Found) :
    readRecordFields slots (fuel + 1) first found s = readField slots fuel found name value := by
  cases begins with
  | first front =>
    rw [readRecordFields, front]
    simp only [skipSpace_cons (c := '"') rfl, key, colon, Char.reduceBEq, Bool.false_eq_true, ↓reduceIte]
    rfl
  | comma front behind =>
    rw [readRecordFields, front]
    simp only [behind, key, colon, Char.reduceBEq, Bool.false_eq_true, ↓reduceIte, BEq.rfl]
    rfl

/-- A record is read out of an object as it is gathered from the fields. -/
theorem readRecordFields_of_readFields {fields : List (String × Json)}
    (read : readFields fuel depth first s = .ok (fields, after)) (slots : List Slot) {fuel' : Nat}
    (enough : s.length < fuel') (found : Found) :
    readRecordFields slots fuel' first found s = (gathered slots found fields).map (·, after) := by
  induction fuel generalizing first s fields fuel' found with
  | zero => cases read
  | succ fuel ih =>
    obtain ⟨fuel', rfl⟩ := Nat.exists_eq_add_one_of_ne_zero (Nat.ne_zero_of_lt enough)
    cases readFields_cases read with
    | done ends => exact readRecordFields_end ends slots fuel' first found
    | @field more mid value last _ name v fields begins key colon content others =>
      obtain ⟨shorter, skips⟩ := readValue_skips content
      have length := begins.length_le
      have named := (readString_skips key).1
      have behind := length_skipSpace_le mid
      rw [colon] at behind
      simp only [List.length_cons] at length behind
      rw [readRecordFields_of_begins begins key colon, readField, gathered]
      cases slots.find? (·.name == name) with
      | some slot =>
        by_cases twice : (found.lookup name).isSome
        · simp only [twice, ↓reduceIte, Option.map_none]
        · simp only [twice, Bool.false_eq_true, ↓reduceIte]
          rw [readSlot_of_readValue content]
          cases slotContent? slot v with
          | none => rfl
          | some content => exact ih others (by omega) _
      | none =>
        dsimp only
        rw [skips _ (by rw [fuelFor]; omega), Option.bind_some]
        exact ih others (by omega) found

theorem exists_of_parse_eq_ok {text : String} (reads : parse text = .ok v) :
    ∃ after, readValue (fuelFor text.toList) maxDepth text.toList = .ok (v, after) ∧
      skipSpace after = [] := by
  have read : readText text.toList = .ok v := by
    unfold parse at reads
    cases read : readText text.toList with
    | ok w =>
      rw [read] at reads
      cases reads
      rfl
    | error f =>
      rw [read] at reads
      cases reads
  obtain ⟨w, after, value, ends⟩ := Reading.andThen_eq_ok read
  refine ⟨after, ?_⟩
  split at ends
  · rename_i space
    cases ends
    exact ⟨value, space⟩
  · cases ends

/-- The record in the text of an object is gathered from its fields. -/
theorem readRecord?_of_parse {text : String} {fields : List (String × Json)}
    (reads : parse text = .ok (.object fields)) (slots : List Slot) :
    readRecord? slots text = gathered slots [] fields := by
  obtain ⟨after, value, space⟩ := exists_of_parse_eq_ok reads
  obtain ⟨c, rest, front, read⟩ := readValue_cases value
  cases read with
  | object each =>
    have record := readRecordFields_of_readFields each slots (Nat.lt_succ_self _) []
    rw [readRecord?, front]
    change (readRecordFields slots (rest.length + 1) true [] rest).bind _ = _
    rw [record]
    cases gathered slots [] fields with
    | none => rfl
    | some found => simp [space]

/-! ## One slot -/

theorem gathered_of_absent {slot : Slot} {found : Found} {fields : List (String × Json)}
    (absent : valuesOf fields slot.name = []) : gathered [slot] found fields = some found := by
  induction fields with
  | nil => rfl
  | cons field fields ih =>
    obtain ⟨name, v⟩ := field
    by_cases same : name = slot.name
    · rw [same, valuesOf_cons_self] at absent
      cases absent
    · rw [valuesOf_cons_of_ne same] at absent
      have other : (slot.name == name) = false := beq_false_of_ne (Ne.symm same)
      rw [gathered, List.find?_cons, other]
      exact ih absent

theorem gathered_of_single {slot : Slot} {v : Json} {fields : List (String × Json)}
    (single : valuesOf fields slot.name = [v]) :
    gathered [slot] [] fields = (slotContent? slot v).map fun content => [(slot.name, content)] := by
  induction fields with
  | nil => cases single
  | cons field fields ih =>
    obtain ⟨name, w⟩ := field
    by_cases same : name = slot.name
    · subst same
      rw [valuesOf_cons_self] at single
      injection single with same others
      subst same
      have found : [slot].find? (·.name == slot.name) = some slot := by simp
      rw [gathered, found]
      dsimp only [List.lookup_nil, Option.isSome_none]
      cases slotContent? slot w with
      | none => rfl
      | some content => exact gathered_of_absent others
    · rw [valuesOf_cons_of_ne same] at single
      have other : (slot.name == name) = false := beq_false_of_ne (Ne.symm same)
      rw [gathered, List.find?_cons, other]
      exact ih single

end Records

end CompileDesk.Json
