import CompileDesk.Json.Reader
import CompileDesk.Proofs.Json.Strings
import Mathlib.Data.List.DropRight

/-!
# Values are read as they are written

The texts of a value that holds no numbers: strings may be escaped in any way, and white space may
stand around every value and every name. Each of its texts is read as the value, unless lists and
objects are nested too deep. The proof follows the text: a comma leaves the reader where the opening
bracket left it.
-/

namespace CompileDesk.Json

/-! ## Texts of values -/

/-- White space: blanks, tabs, line feeds and carriage returns. -/
def IsSpace (s : List Char) : Prop := ∀ c ∈ s, c ∈ [' ', '\t', '\n', '\r']

mutual

/-- The texts of a value, with white space around it. -/
inductive Spells : Json → List Char → Prop where
  | null : Spells .null "null".toList
  | bool (b : Bool) : Spells (.bool b) (if b then "true" else "false").toList
  | string {s : String} {text : List Char} (quotes : Quotes s text) : Spells (.string s) text
  | array {items : List Json} {inner : List Char} (each : SpellsItems items inner) :
      Spells (.array items) ('[' :: (inner ++ [']']))
  | object {fields : List (String × Json)} {inner : List Char} (each : SpellsFields fields inner) :
      Spells (.object fields) ('\x7b' :: (inner ++ ['\x7d']))
  | spaced {v : Json} {before text after : List Char} (blank : IsSpace before)
      (value : Spells v text) (blank' : IsSpace after) : Spells v (before ++ text ++ after)

/-- The texts of items, between the brackets. -/
inductive SpellsItems : List Json → List Char → Prop where
  | nil {space : List Char} (blank : IsSpace space) : SpellsItems [] space
  | last {v : Json} {text : List Char} (value : Spells v text) : SpellsItems [v] text
  | cons {v w : Json} {items : List Json} {text more : List Char} (value : Spells v text)
      (others : SpellsItems (w :: items) more) :
      SpellsItems (v :: w :: items) (text ++ ',' :: more)

/-- The texts of fields, between the braces. -/
inductive SpellsFields : List (String × Json) → List Char → Prop where
  | nil {space : List Char} (blank : IsSpace space) : SpellsFields [] space
  | last {name : String} {v : Json} {before key after text : List Char} (blank : IsSpace before)
      (quotes : Quotes name key) (blank' : IsSpace after) (value : Spells v text) :
      SpellsFields [(name, v)] (before ++ key ++ after ++ ':' :: text)
  | cons {name : String} {v : Json} {field : String × Json} {fields : List (String × Json)}
      {before key after text more : List Char} (blank : IsSpace before) (quotes : Quotes name key)
      (blank' : IsSpace after) (value : Spells v text) (others : SpellsFields (field :: fields) more) :
      SpellsFields ((name, v) :: field :: fields)
        (before ++ key ++ after ++ ':' :: (text ++ ',' :: more))

end

mutual

/-- How deep lists and objects stand inside one another. -/
def nesting : Json → Nat
  | .array items => nestingIn items + 1
  | .object fields => nestingOf fields + 1
  | _ => 0

def nestingIn : List Json → Nat
  | [] => 0
  | v :: rest => max (nesting v) (nestingIn rest)

def nestingOf : List (String × Json) → Nat
  | [] => 0
  | (_, v) :: rest => max (nesting v) (nestingOf rest)

end

theorem nestingOf_le {fields : List (String × Json)} {n : Nat}
    (each : ∀ field ∈ fields, nesting field.2 ≤ n) : nestingOf fields ≤ n := by
  induction fields with
  | nil => exact Nat.zero_le n
  | cons field fields ih =>
    exact max_le (each field List.mem_cons_self)
      (ih fun other there => each other (List.mem_cons_of_mem field there))

/-! ## White space -/

variable {space : List Char}

theorem skipSpace_append (blank : IsSpace space) (s : List Char) :
    skipSpace (space ++ s) = skipSpace s := by
  have each : ∀ c ∈ [' ', '\t', '\n', '\r'], isSpace c = true := by simp [isSpace]
  exact List.dropWhile_append_of_pos fun c there => each c (blank c there)

theorem skipSpace_cons {c : Char} (noSpace : isSpace c = false) (s : List Char) :
    skipSpace (c :: s) = c :: s := by
  simp [skipSpace, noSpace]

theorem readValue_space (blank : IsSpace space) (fuel depth : Nat) (s : List Char) :
    readValue (fuel + 1) depth (space ++ s) = readValue (fuel + 1) depth s := by
  rw [readValue, readValue, skipSpace_append blank]

theorem readValue_skipSpace (fuel depth : Nat) (s : List Char) :
    readValue (fuel + 1) depth (skipSpace s) = readValue (fuel + 1) depth s := by
  rw [readValue, readValue, skipSpace, skipSpace, List.dropWhile_idempotent]

theorem readItems_space (blank : IsSpace space) (fuel depth : Nat) (first : Bool) (s : List Char) :
    readItems (fuel + 1) depth first (space ++ s) = readItems (fuel + 1) depth first s := by
  rw [readItems, readItems, skipSpace_append blank]

theorem readFields_space (blank : IsSpace space) (fuel depth : Nat) (first : Bool) (s : List Char) :
    readFields (fuel + 1) depth first (space ++ s) = readFields (fuel + 1) depth first s := by
  rw [readFields, readFields, skipSpace_append blank]

/-! ## Where a text begins -/

theorem Spells.begins : ∀ {v : Json} {text : List Char}, Spells v text → ∀ rest,
    ∃ c more, skipSpace (text ++ rest) = c :: more ∧ c ≠ ']'
  | _, _, .null, rest => ⟨'n', _, rfl, by decide⟩
  | _, _, .bool true, rest => ⟨'t', _, rfl, by decide⟩
  | _, _, .bool false, rest => ⟨'f', _, rfl, by decide⟩
  | _, _, .string quotes, rest => by
    obtain ⟨inner, _, rfl⟩ := quotes
    exact ⟨'"', _, rfl, by decide⟩
  | _, _, .array _, rest => ⟨'[', _, rfl, by decide⟩
  | _, _, .object _, rest => ⟨'\x7b', _, rfl, by decide⟩
  | _, _, @Spells.spaced _ _ _ after blank value _, rest => by
    obtain ⟨c, more, begins, other⟩ := value.begins (after ++ rest)
    refine ⟨c, more, ?_, other⟩
    rw [List.append_assoc, List.append_assoc, skipSpace_append blank, begins]

theorem Spells.ne_nil : ∀ {v : Json} {text : List Char}, Spells v text → text ≠ []
  | _, _, .null => by decide
  | _, _, .bool b => by cases b <;> decide
  | _, _, .string quotes => by
    obtain ⟨inner, _, rfl⟩ := quotes
    exact List.cons_ne_nil _ _
  | _, _, .array _ => List.cons_ne_nil _ _
  | _, _, .object _ => List.cons_ne_nil _ _
  | _, _, .spaced _ value _ => by
    refine List.append_ne_nil_of_left_ne_nil (List.append_ne_nil_of_right_ne_nil _ value.ne_nil) _

theorem Spells.length_pos {v : Json} {text : List Char} (h : Spells v text) : 0 < text.length :=
  List.length_pos_iff.mpr h.ne_nil

theorem SpellsItems.begins {v : Json} {items : List Json} {inner : List Char}
    (h : SpellsItems (v :: items) inner) (rest : List Char) :
    ∃ c more, skipSpace (inner ++ rest) = c :: more ∧ c ≠ ']' := by
  cases h with
  | last value => exact value.begins rest
  | cons value others =>
    rw [List.append_assoc]
    exact value.begins _

theorem SpellsFields.begins {field : String × Json} {fields : List (String × Json)}
    {inner : List Char} (h : SpellsFields (field :: fields) inner) (rest : List Char) :
    ∃ more, skipSpace (inner ++ rest) = '"' :: more := by
  cases h with
  | last blank quotes blank' value =>
    obtain ⟨inner, _, rfl⟩ := quotes
    simp only [List.append_assoc, skipSpace_append blank]
    exact ⟨_, rfl⟩
  | cons blank quotes blank' value others =>
    obtain ⟨inner, _, rfl⟩ := quotes
    simp only [List.append_assoc, skipSpace_append blank]
    exact ⟨_, rfl⟩

/-! ## Reading a text -/

/-- The text is read as the value, but for the white space at its end. One unit of fuel for each
character is enough. -/
def ReadsAs (v : Json) (text : List Char) : Prop :=
  ∀ fuel depth, text.length ≤ fuel → nesting v < depth → ∀ rest,
    ∃ space, IsSpace space ∧ readValue fuel depth (text ++ rest) = .ok (v, space ++ rest)

def ReadsAsItems (items : List Json) (inner : List Char) : Prop :=
  ∀ fuel depth, inner.length < fuel → nestingIn items < depth → ∀ rest,
    readItems fuel depth true (inner ++ ']' :: rest) = .ok (items, rest)

def ReadsAsFields (fields : List (String × Json)) (inner : List Char) : Prop :=
  ∀ fuel depth, inner.length < fuel → nestingOf fields < depth → ∀ rest,
    readFields fuel depth true (inner ++ '\x7d' :: rest) = .ok (fields, rest)

variable {v w : Json} {items : List Json} {fields : List (String × Json)} {text inner : List Char}

theorem isSpace_nil : IsSpace [] := fun _ there => by cases there

/-- A text that is read without its white space is read with it. -/
theorem ReadsAs.of_exact (some : text ≠ [])
    (reads : ∀ fuel depth, text.length ≤ fuel + 1 → nesting v < depth → ∀ rest,
      readValue (fuel + 1) depth (text ++ rest) = .ok (v, rest)) : ReadsAs v text := by
  intro fuel depth enough shallow rest
  cases fuel with
  | zero => exact absurd (List.eq_nil_of_length_eq_zero (Nat.le_zero.mp enough)) some
  | succ fuel => exact ⟨[], isSpace_nil, reads fuel depth enough shallow rest⟩

theorem readsAs_null : ReadsAs .null "null".toList :=
  .of_exact (by decide) fun _ _ _ _ _ => rfl

theorem readsAs_bool (b : Bool) : ReadsAs (.bool b) (if b then "true" else "false").toList := by
  cases b with
  | false => exact .of_exact (by decide) fun _ _ _ _ _ => rfl
  | true => exact .of_exact (by decide) fun _ _ _ _ _ => rfl

theorem readsAs_string {s : String} (quotes : Quotes s text) : ReadsAs (.string s) text := by
  obtain ⟨inner, rfl, reads⟩ := quotes.readString
  refine .of_exact (List.cons_ne_nil _ _) fun fuel depth _ _ rest => ?_
  rw [List.cons_append, readValue, skipSpace_cons rfl]
  simp only [reads]
  rfl

theorem ReadsAsItems.readsAs (each : ReadsAsItems items inner) :
    ReadsAs (.array items) ('[' :: (inner ++ [']'])) := by
  refine .of_exact (List.cons_ne_nil _ _) fun fuel depth enough shallow rest => ?_
  simp only [List.length_cons, List.length_append, List.length_nil] at enough
  rw [nesting] at shallow
  have room : ¬ depth ≤ 1 := by omega
  have read := each fuel (depth - 1) (by omega) (by omega) rest
  rw [List.cons_append, List.append_assoc, List.singleton_append, readValue, skipSpace_cons rfl]
  simp only [if_neg room, read]
  rfl

theorem ReadsAsFields.readsAs (each : ReadsAsFields fields inner) :
    ReadsAs (.object fields) ('\x7b' :: (inner ++ ['\x7d'])) := by
  refine .of_exact (List.cons_ne_nil _ _) fun fuel depth enough shallow rest => ?_
  simp only [List.length_cons, List.length_append, List.length_nil] at enough
  rw [nesting] at shallow
  have room : ¬ depth ≤ 1 := by omega
  have read := each fuel (depth - 1) (by omega) (by omega) rest
  rw [List.cons_append, List.append_assoc, List.singleton_append, readValue, skipSpace_cons rfl]
  simp only [if_neg room, read]
  rfl

theorem ReadsAs.spaced {before after : List Char} (some : text ≠ []) (blank : IsSpace before)
    (value : ReadsAs v text) (blank' : IsSpace after) : ReadsAs v (before ++ text ++ after) := by
  intro fuel depth enough shallow rest
  simp only [List.length_append] at enough
  have filled := List.length_pos_iff.mpr some
  obtain ⟨fuel, rfl⟩ := Nat.exists_eq_add_one_of_ne_zero (n := fuel) (by omega)
  obtain ⟨space, blanks, read⟩ := value (fuel + 1) depth (by omega) shallow (after ++ rest)
  refine ⟨space ++ after, fun c there => ?_, ?_⟩
  · obtain there | there := List.mem_append.mp there
    · exact blanks c there
    · exact blank' c there
  · simp only [List.append_assoc, readValue_space blank]
    exact read

/-! ## Reading items -/

theorem readItems_comma (blank : IsSpace space) {s : List Char} {c : Char} {more : List Char}
    (begins : skipSpace s = c :: more) (other : c ≠ ']') (fuel depth : Nat) :
    readItems (fuel + 1) depth false (space ++ ',' :: s) = readItems (fuel + 1) depth true s := by
  have noEnd : (c == ']') = false := beq_false_of_ne other
  rw [readItems_space blank, readItems, readItems, skipSpace_cons rfl]
  simp only [begins, noEnd]
  rfl

theorem readItems_first {s : List Char} {c : Char} {more : List Char}
    (begins : skipSpace s = c :: more) (other : c ≠ ']') (fuel depth : Nat) :
    readItems (fuel + 2) depth true s =
      (readValue (fuel + 1) depth s).andThen fun v after =>
      (readItems (fuel + 1) depth false after).andThen fun vs after => .ok (v :: vs, after) := by
  have noEnd : (c == ']') = false := beq_false_of_ne other
  rw [readItems, ← readValue_skipSpace fuel depth s]
  simp only [begins, noEnd]
  rfl

theorem readItems_end (blank : IsSpace space) (fuel depth : Nat) (first : Bool) (rest : List Char) :
    readItems (fuel + 1) depth first (space ++ ']' :: rest) = .ok ([], rest) := by
  rw [readItems_space blank, readItems, skipSpace_cons rfl]
  rfl

theorem readsAsItems_nil (blank : IsSpace space) : ReadsAsItems [] space := by
  intro fuel depth enough _ rest
  obtain ⟨fuel, rfl⟩ := Nat.exists_eq_add_one_of_ne_zero (n := fuel) (by omega)
  exact readItems_end blank fuel depth true rest

theorem ReadsAsItems.last (spells : Spells v text) (value : ReadsAs v text) :
    ReadsAsItems [v] text := by
  intro fuel depth enough shallow rest
  have filled := spells.length_pos
  obtain ⟨fuel, rfl⟩ := Nat.exists_eq_add_of_le' (show 2 ≤ fuel by omega)
  obtain ⟨c, more, begins, other⟩ := spells.begins (']' :: rest)
  rw [nestingIn, nestingIn] at shallow
  obtain ⟨space, blank, read⟩ := value (fuel + 1) depth (by omega) (by omega) (']' :: rest)
  rw [readItems_first begins other, read, Reading.andThen_ok, readItems_end blank]
  rfl

theorem ReadsAsItems.cons {more : List Char} (spells : Spells v text) (value : ReadsAs v text)
    (spells' : SpellsItems (w :: items) more) (others : ReadsAsItems (w :: items) more) :
    ReadsAsItems (v :: w :: items) (text ++ ',' :: more) := by
  intro fuel depth enough shallow rest
  have filled := spells.length_pos
  simp only [List.length_append, List.length_cons] at enough
  obtain ⟨fuel, rfl⟩ := Nat.exists_eq_add_of_le' (show 2 ≤ fuel by omega)
  rw [nestingIn] at shallow
  rw [List.append_assoc, List.cons_append]
  obtain ⟨c, _, begins, other⟩ := spells.begins (',' :: (more ++ ']' :: rest))
  obtain ⟨d, _, begins', other'⟩ := spells'.begins (']' :: rest)
  obtain ⟨space, blank, read⟩ :=
    value (fuel + 1) depth (by omega) (by omega) (',' :: (more ++ ']' :: rest))
  -- After the comma the reader stands where it stood after the bracket, with the other items left.
  rw [readItems_first begins other, read, Reading.andThen_ok, readItems_comma blank begins' other',
    others (fuel + 1) depth (by omega) (by omega) rest]
  rfl

/-! ## Reading fields -/

theorem readFields_comma (blank : IsSpace space) {s more : List Char}
    (begins : skipSpace s = '"' :: more) (fuel depth : Nat) :
    readFields (fuel + 1) depth false (space ++ ',' :: s) =
      readFields (fuel + 1) depth true s := by
  rw [readFields_space blank, readFields, readFields, skipSpace_cons rfl]
  simp only [begins]
  rfl

theorem readFields_first {name : String} {before key after : List Char} (blank : IsSpace before)
    (quotes : Quotes name key) (blank' : IsSpace after) (fuel depth : Nat) (s : List Char) :
    readFields (fuel + 1) depth true (before ++ key ++ after ++ ':' :: s) =
      (readValue fuel depth s).andThen fun v after =>
      (readFields fuel depth false after).andThen fun vs after => .ok ((name, v) :: vs, after) := by
  obtain ⟨inner, rfl, reads⟩ := quotes.readString
  simp only [List.append_assoc, readFields_space blank]
  rw [List.cons_append, readFields, skipSpace_cons rfl]
  simp only [reads, Reading.andThen_ok, skipSpace_append blank', skipSpace_cons (c := ':') rfl]
  rfl

theorem readFields_end (blank : IsSpace space) (fuel depth : Nat) (first : Bool)
    (rest : List Char) :
    readFields (fuel + 1) depth first (space ++ '\x7d' :: rest) = .ok ([], rest) := by
  rw [readFields_space blank, readFields, skipSpace_cons rfl]
  rfl

theorem readsAsFields_nil (blank : IsSpace space) : ReadsAsFields [] space := by
  intro fuel depth enough _ rest
  obtain ⟨fuel, rfl⟩ := Nat.exists_eq_add_one_of_ne_zero (n := fuel) (by omega)
  exact readFields_end blank fuel depth true rest

section Fields

variable {name : String} {field : String × Json} {before key after more : List Char}

theorem ReadsAsFields.last (blank : IsSpace before) (quotes : Quotes name key)
    (blank' : IsSpace after) (value : ReadsAs v text) :
    ReadsAsFields [(name, v)] (before ++ key ++ after ++ ':' :: text) := by
  intro fuel depth enough shallow rest
  simp only [List.length_append, List.length_cons] at enough
  obtain ⟨fuel, rfl⟩ := Nat.exists_eq_add_of_le' (show 2 ≤ fuel by omega)
  rw [nestingOf, nestingOf] at shallow
  obtain ⟨space, blank'', read⟩ := value (fuel + 1) depth (by omega) (by omega) ('\x7d' :: rest)
  rw [List.append_assoc, List.cons_append, readFields_first blank quotes blank', read,
    Reading.andThen_ok, readFields_end blank'']
  rfl

theorem ReadsAsFields.cons (blank : IsSpace before) (quotes : Quotes name key)
    (blank' : IsSpace after) (value : ReadsAs v text) (spells : SpellsFields (field :: fields) more)
    (others : ReadsAsFields (field :: fields) more) :
    ReadsAsFields ((name, v) :: field :: fields)
      (before ++ key ++ after ++ ':' :: (text ++ ',' :: more)) := by
  intro fuel depth enough shallow rest
  simp only [List.length_append, List.length_cons] at enough
  obtain ⟨fuel, rfl⟩ := Nat.exists_eq_add_of_le' (show 2 ≤ fuel by omega)
  rw [nestingOf] at shallow
  obtain ⟨_, begins⟩ := spells.begins ('\x7d' :: rest)
  obtain ⟨space, blank'', read⟩ :=
    value (fuel + 1) depth (by omega) (by omega) (',' :: (more ++ '\x7d' :: rest))
  rw [List.append_assoc, List.cons_append, readFields_first blank quotes blank', List.append_assoc,
    List.cons_append, read, Reading.andThen_ok, readFields_comma blank'' begins,
    others (fuel + 1) depth (by omega) (by omega) rest]
  rfl

end Fields

/-! ## Reading whole texts -/

mutual

theorem Spells.readsAs : ∀ {v : Json} {text : List Char}, Spells v text → ReadsAs v text
  | _, _, .null => readsAs_null
  | _, _, .bool b => readsAs_bool b
  | _, _, .string quotes => readsAs_string quotes
  | _, _, .array each => each.readsAsItems.readsAs
  | _, _, .object each => each.readsAsFields.readsAs
  | _, _, .spaced blank value blank' => value.readsAs.spaced value.ne_nil blank blank'

theorem SpellsItems.readsAsItems : ∀ {items : List Json} {inner : List Char},
    SpellsItems items inner → ReadsAsItems items inner
  | _, _, .nil blank => readsAsItems_nil blank
  | _, _, .last value => .last value value.readsAs
  | _, _, .cons value others => .cons value value.readsAs others others.readsAsItems

theorem SpellsFields.readsAsFields : ∀ {fields : List (String × Json)} {inner : List Char},
    SpellsFields fields inner → ReadsAsFields fields inner
  | _, _, .nil blank => readsAsFields_nil blank
  | _, _, .last blank quotes blank' value => .last blank quotes blank' value.readsAs
  | _, _, .cons blank quotes blank' value others =>
    .cons blank quotes blank' value.readsAs others others.readsAsFields

end

/-- A text of a value is read as that value. -/
theorem Spells.parse {body : String} (h : Spells v body.toList) (shallow : nesting v < maxDepth) :
    Json.parse body = .ok v := by
  have enough : body.toList.length ≤ fuelFor body.toList := by
    rw [fuelFor]
    omega
  obtain ⟨space, blank, read⟩ := h.readsAs _ maxDepth enough shallow []
  have ends : skipSpace space = [] := by
    rw [← List.append_nil space, skipSpace_append blank]
    rfl
  rw [List.append_nil, List.append_nil] at read
  rw [Json.parse, readText, read, Reading.andThen_ok, ends]
  rfl

/-! ## Writing -/

theorem spells_render_string (s : String) : Spells (.string s) (render (.string s)) :=
  .string (quotes_quoted s)

theorem spellsItems_renderItems : ∀ {items : List Json},
    (∀ v ∈ items, Spells v (render v)) → SpellsItems items (renderItems items)
  | [], _ => .nil isSpace_nil
  | [v], each => .last (each v List.mem_cons_self)
  | v :: w :: rest, each => by
    have others : SpellsItems (w :: rest) (renderItems (w :: rest)) :=
      spellsItems_renderItems fun u there => each u (List.mem_cons_of_mem v there)
    exact .cons (each v List.mem_cons_self) others

theorem spellsFields_renderFields : ∀ {fields : List (String × Json)},
    (∀ field ∈ fields, Spells field.2 (render field.2)) → SpellsFields fields (renderFields fields)
  | [], _ => .nil isSpace_nil
  | [(name, v)], each => by
    have value := each (name, v) List.mem_cons_self
    have last := SpellsFields.last isSpace_nil (quotes_quoted name) isSpace_nil value
    rwa [List.nil_append, List.append_nil] at last
  | (name, v) :: field :: rest, each => by
    have value := each (name, v) List.mem_cons_self
    have others : SpellsFields (field :: rest) (renderFields (field :: rest)) :=
      spellsFields_renderFields fun other there => each other (List.mem_cons_of_mem _ there)
    have both := SpellsFields.cons isSpace_nil (quotes_quoted name) isSpace_nil value others
    rw [List.nil_append, List.append_nil] at both
    simpa only [renderFields, List.append_assoc, List.cons_append] using both

theorem spells_render_array (each : ∀ v ∈ items, Spells v (render v)) :
    Spells (.array items) (render (.array items)) :=
  .array (spellsItems_renderItems each)

theorem spells_render_object (each : ∀ field ∈ fields, Spells field.2 (render field.2)) :
    Spells (.object fields) (render (.object fields)) :=
  .object (spellsFields_renderFields each)

end CompileDesk.Json
