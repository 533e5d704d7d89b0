import CompileDesk.Proofs.Toml.Lexemes
import CompileDesk.Proofs.Toml.Tables

/-! # Values are read as they were written

A value that is written on one line is read as its form, as long as it does not nest too deep, and the
form stands for the value. Reading fails exactly when the nesting is too deep. The proofs follow
the values: the text behind a value tells where it ends.
-/

namespace CompileDesk.Toml

/-! ## Forms of values -/

mutual

/-- The form in which a value is written on one line. -/
def formOf : Toml → Form
  | .string s =>
    .plain (.quoted (Style.ofValue s.toList) ((Style.ofValue s.toList).tail s.toList))
  | .array items => .array (formsOf items)
  | .table entries => .table (entryFormsOf entries)
  | v => .plain (.bare (inline v))

def formsOf : List Toml → List Form
  | [] => []
  | v :: rest => formOf v :: formsOf rest

def entryFormsOf : List (String × Toml) → List (Key × Form)
  | [] => []
  | (key, v) :: rest => (keyOf [] key, formOf v) :: entryFormsOf rest

end

mutual

/-- How deep arrays and tables stand inside one another. -/
def nesting : Toml → Nat
  | .array items => nestingIn items + 1
  | .table entries => nestingOf entries + 1
  | _ => 0

def nestingIn : List Toml → Nat
  | [] => 0
  | v :: rest => max (nesting v) (nestingIn rest)

def nestingOf : List (String × Toml) → Nat
  | [] => 0
  | (_, v) :: rest => max (nesting v) (nestingOf rest)

end

mutual

/-- Whether a value is put together from texts, integers and truth values. -/
def isDiscrete : Toml → Bool
  | .real _ | .moment _ => false
  | .array items => areDiscrete items
  | .table entries => haveDiscrete entries
  | _ => true

def areDiscrete : List Toml → Bool
  | [] => true
  | v :: rest => isDiscrete v && areDiscrete rest

def haveDiscrete : List (String × Toml) → Bool
  | [] => true
  | (_, v) :: rest => isDiscrete v && haveDiscrete rest

end

/-! ## Plain values -/

/-- The end of a value: a text that begins with a comma, a bracket, a blank or a line end. -/
def EndsValue (s : List Char) : Prop :=
  ∃ c more, s = c :: more ∧ (c = ',' ∨ c = ']' ∨ c = ' ' ∨ c = '\n')

theorem EndsValue.unquoted {s : List Char} (h : EndsValue s) : Unquoted s := by
  obtain ⟨c, more, rfl, rfl | rfl | rfl | rfl⟩ := h <;> exact ⟨by simp, by simp⟩

/-- A text without quotes that is taken for one value, whatever follows it. -/
def StandsBare (s : List Char) : Prop :=
  s ≠ [] ∧ (∀ c ∈ s, endsBare c = false) ∧ '-' ∉ s.tail

theorem StandsBare.readPlain? {s rest : List Char} (h : StandsBare s) (ends : EndsValue rest) :
    Toml.readPlain? (s ++ rest) = some (.bare s, rest) := by
  obtain ⟨some, inner, noHyphen⟩ := h
  have unquoted : readQuoted? (s ++ rest) = none := by
    obtain ⟨c, more, rfl⟩ := List.exists_cons_of_ne_nil some
    have first := inner c List.mem_cons_self
    refine readQuoted?_of_head ?_ ?_ <;> rintro rfl <;> cases first
  have read : readBare? endsBare (s ++ rest) = .some (.bare s, rest) := by
    refine readBare?_append some inner ?_
    obtain ⟨c, more, rfl, rfl | rfl | rfl | rfl⟩ := ends <;> exact ⟨_, more, rfl, rfl⟩
  have noDate : beginsLikeDate s = false := by
    refine Bool.and_eq_false_imp.mpr fun _ => beq_eq_false_iff_ne.mpr fun hyphen => noHyphen ?_
    have there : '-' ∈ s.drop 4 := List.mem_of_mem_head? hyphen
    rw [← List.drop_one]
    exact List.mem_of_mem_drop (i := 3) (by simpa using there)
  rw [Toml.readPlain?, unquoted, read]
  obtain ⟨c, more, rfl, rfl | rfl | rfl | rfl⟩ := ends <;> simp [noDate]

theorem standsBare_ofInt (n : Int) : StandsBare (Text.ofInt n).toList := by
  have digits : ∀ n, ∀ c ∈ Text.decimal n, endsBare c = false := fun n c there => by
    have bare := endsBare_of_isBareChar (c := c) (by simp [isBareChar, isDigit_of_mem_decimal there])
    exact (Bool.or_eq_false_iff.mp bare).1
  cases n with
  | ofNat n =>
    obtain ⟨d, more, eq, _⟩ := decimal_cons n
    rw [Text.ofInt, Text.ofNat, String.toList_ofList]
    refine ⟨by simp [eq], digits n, fun there => ?_⟩
    exact notMem_decimal rfl n (List.mem_of_mem_tail there)
  | negSucc n =>
    have text : (Text.ofInt (.negSucc n)).toList = '-' :: Text.decimal (n + 1) := by
      simp [Text.ofInt, Text.ofNat]
    rw [text]
    refine ⟨by simp, ?_, notMem_decimal rfl (n + 1)⟩
    intro c there
    obtain rfl | there := List.mem_cons.mp there
    · rfl
    · exact digits (n + 1) c there

theorem standsBare_boolean (b : Bool) : StandsBare (if b then "true" else "false").toList := by
  have letters : ("true".toList ++ "false".toList).all fun c => !endsBare c := by decide
  rw [List.all_append, Bool.and_eq_true, List.all_eq_true, List.all_eq_true] at letters
  cases b with
  | true => exact ⟨by decide, fun c there => by simpa using letters.1 c there, by decide⟩
  | false => exact ⟨by decide, fun c there => by simpa using letters.2 c there, by decide⟩

theorem readForm?_plain {c : Char} {s : List Char} (noBracket : c ≠ '[') (noBrace : c ≠ '\x7b')
    (fuel room : Nat) :
    readForm? (fuel + 1) room (c :: s) =
      (readPlain? (c :: s)).map fun (lexeme, after) => (.plain lexeme, after) := by
  rw [readForm?]
  · exact fun _ same => noBracket (List.cons.inj same).1
  · exact fun _ same => noBrace (List.cons.inj same).1

theorem StandsBare.readForm? {s rest : List Char} (h : StandsBare s) (ends : EndsValue rest)
    (fuel room : Nat) : Toml.readForm? (fuel + 1) room (s ++ rest) = some (.plain (.bare s), rest) := by
  have read := h.readPlain? ends
  obtain ⟨some, inner, _⟩ := h
  obtain ⟨c, more, rfl⟩ := List.exists_cons_of_ne_nil some
  have first := inner c List.mem_cons_self
  rw [List.cons_append] at read ⊢
  rw [readForm?_plain, read]
  · rfl
  all_goals
    rintro rfl
    cases first

theorem quotedValue_head (s : String) :
    ∃ c more, quotedValue s = c :: more ∧ (c = '"' ∨ c = '\'') := by
  rw [quotedValue]
  cases Style.ofValue s.toList <;> simp [Style.write]

theorem readForm?_string (s : String) {rest : List Char} (ends : EndsValue rest) (fuel room : Nat) :
    readForm? (fuel + 1) room (quotedValue s ++ rest) = some (formOf (.string s), rest) := by
  have read := readQuoted?_write _ (Style.fits_ofValue s.toList) ends.unquoted
  rw [← quotedValue] at read
  obtain ⟨c, more, eq, quote⟩ := quotedValue_head s
  rw [eq, List.cons_append] at read ⊢
  rw [readForm?_plain, readPlain?, read]
  · rfl
  all_goals
    rintro rfl
    simp at quote

/-! ## Nested values -/

/-- What a value begins with. -/
def startsValue (c : Char) : Bool :=
  !endsBare c || c == '"' || c == '\'' || c == '[' || c == '\x7b'

theorem inline_head {v : Toml} (discrete : isDiscrete v) :
    ∃ c more, inline v = c :: more ∧ startsValue c := by
  cases v with
  | string s =>
    obtain ⟨c, more, eq, rfl | rfl⟩ := quotedValue_head s <;> exact ⟨_, more, eq, rfl⟩
  | integer n =>
    obtain ⟨some, inner, _⟩ := standsBare_ofInt n
    obtain ⟨c, more, eq⟩ := List.exists_cons_of_ne_nil some
    exact ⟨c, more, eq, by simp [startsValue, inner c (eq ▸ List.mem_cons_self)]⟩
  | boolean b => cases b <;> exact ⟨_, _, rfl, rfl⟩
  | array items => exact ⟨'[', _, rfl, rfl⟩
  | table entries =>
    rw [inline]
    split <;> exact ⟨'\x7b', _, rfl, rfl⟩
  | real => cases discrete
  | moment => cases discrete

theorem skipLayout_of_head {c : Char} (s : List Char) (blank : isLineBlank c = false)
    (lineFeed : c ≠ '\n')
    (return_ : c ≠ '\r') (comment : c ≠ '#') : skipLayout (c :: s) = some (c :: s) := by
  rw [skipLayout, skipLayoutGo]
  · simp [blank, comment]
  · exact lineFeed
  · exact fun _ h => absurd h return_

theorem skipLayout_sign {c : Char} (sign : c ∈ ['=', ',', ']', '\x7d']) (s : List Char) :
    skipLayout (c :: s) = some (c :: s) := by
  simp only [List.mem_cons, List.not_mem_nil, or_false] at sign
  obtain rfl | rfl | rfl | rfl := sign <;> rfl

@[simp] theorem skipLayout_blank (s : List Char) : skipLayout (' ' :: s) = skipLayout s := by
  simp [skipLayout, skipLayoutGo, isLineBlank]

theorem skipLayout_value {c : Char} (starts : startsValue c) (s : List Char) :
    skipLayout (c :: s) = some (c :: s) := by
  refine skipLayout_of_head s (Bool.eq_false_iff.mpr fun blank => ?_) ?_ ?_ ?_
  · simp only [isLineBlank, Bool.or_eq_true, beq_iff_eq] at blank
    obtain rfl | rfl := blank <;> cases starts
  all_goals
    rintro rfl
    cases starts

theorem startsValue_of_startsPart {c : Char} (starts : startsPart c) : startsValue c := by
  simp only [startsPart, Bool.or_eq_true, beq_iff_eq] at starts
  obtain (bare | rfl) | rfl := starts
  · have inner := (Bool.or_eq_false_iff.mp (endsBare_of_isBareChar bare)).1
    simp [startsValue, inner]
  · rfl
  · rfl

/-- The next item of an array and what is behind it. -/
theorem readItems?_cons {c : Char} (starts : startsValue c) (fuel room : Nat) (s : List Char) :
    readItems? (fuel + 1) room (c :: s) =
      (readForm? fuel room (c :: s)).bind fun (form, after) =>
        match skipLayout after with
        | some (',' :: more) =>
          (readItems? fuel room more).map fun (forms, after) => (form :: forms, after)
        | some (']' :: more) => some ([form], more)
        | _ => none := by
  have noBracket : c ≠ ']' := by
    rintro rfl
    cases starts
  rw [readItems?, skipLayout_value starts]
  split
  · contradiction
  · rename_i same
    cases same
    exact absurd rfl noBracket
  · rename_i same
    cases same
    cases readForm? fuel room (c :: s) <;> rfl

/-- The next entry of an inline table and what is behind it. -/
theorem readEntries?_entry (key : String) {v : Toml} (discrete : isDiscrete v) (fuel room : Nat)
    (s : List Char) :
    readEntries? (fuel + 1) room (quotedKey key ++ [' ', '=', ' '] ++ inline v ++ s) =
      (readForm? fuel room (inline v ++ s)).bind fun (form, after) =>
        match skipLayout after with
        | some (',' :: more) =>
          (readEntries? fuel room more).map fun (entries, after) =>
            ((keyOf [] key, form) :: entries, after)
        | some ('\x7d' :: more) => some ([(keyOf [] key, form)], more)
        | _ => none := by
  obtain ⟨c, more, eq, starts⟩ := quotedKey_head key
  obtain ⟨d, others, first, startsV⟩ := inline_head discrete
  have named := readKey?_entry [] key (' ' :: (inline v ++ s))
  have value : skipLayout (' ' :: (inline v ++ s)) = some (inline v ++ s) := by
    rw [skipLayout_blank, first, List.cons_append, skipLayout_value startsV]
  have text : quotedKey key ++ [' ', '=', ' '] ++ inline v ++ s =
      quotedKey key ++ ' ' :: '=' :: ' ' :: (inline v ++ s) := by
    simp
  rw [List.nil_append, List.map_singleton, joinedWith] at named
  rw [text, readEntries?]
  rw [eq, List.cons_append] at named ⊢
  rw [skipLayout_value (startsValue_of_startsPart starts)]
  split
  · contradiction
  · rename_i same
    cases same
    cases starts
  · rename_i same
    cases same
    simp only [named, skipLayout_sign (c := '=') (by decide), value, Option.bind_some]
    cases readForm? fuel room (inline v ++ s) <;> rfl

theorem readEntries?_blank (fuel room : Nat) (s : List Char) :
    readEntries? fuel room (' ' :: s) = readEntries? fuel room s := by
  cases fuel with
  | zero => rfl
  | succ fuel => rw [readEntries?, readEntries?, skipLayout_blank]

theorem readItems?_blank (fuel room : Nat) (s : List Char) :
    readItems? fuel room (' ' :: s) = readItems? fuel room s := by
  cases fuel with
  | zero => rfl
  | succ fuel => rw [readItems?, readItems?, skipLayout_blank]

/-- Inside brackets there is room for one nesting less. -/
theorem nested_eq {α β : Type} (n room : Nat) (a : α) (f : α → β) :
    (if room = 0 then none else (if n ≤ room - 1 then some a else none).map f) =
      if n + 1 ≤ room then some (f a) else none := by
  by_cases full : room = 0
  · rw [if_pos full, if_neg (by omega)]
  · rw [if_neg full]
    by_cases deep : n ≤ room - 1
    · rw [if_pos deep, if_pos (by omega), Option.map_some]
    · rw [if_neg deep, if_neg (by omega), Option.map_none]

/-- Values next to one another nest as deep as the deeper one. -/
theorem beside_eq {α β γ : Type} (m n room : Nat) (a : α) (b : β) (f : β → γ)
    {g : α → Option γ} (h : g a = (if n ≤ room then some b else none).map f) :
    (if m ≤ room then some a else none).bind g = if max m n ≤ room then some (f b) else none := by
  by_cases deep : m ≤ room
  · rw [if_pos deep, Option.bind_some, h]
    by_cases deeper : n ≤ room
    · rw [if_pos deeper, if_pos (Nat.max_le.mpr ⟨deep, deeper⟩), Option.map_some]
    · rw [if_neg deeper, if_neg fun both => deeper (Nat.max_le.mp both).2, Option.map_none]
  · rw [if_neg deep, if_neg fun both => deep (Nat.max_le.mp both).1, Option.bind_none]

-- The fuel is longer than the text and so never runs out; what can fail is the room for nesting.
mutual

theorem readForm?_inline : (v : Toml) → isDiscrete v → ∀ {rest : List Char}, EndsValue rest →
    ∀ fuel room, (inline v).length < fuel →
      readForm? fuel room (inline v ++ rest) =
        if nesting v ≤ room then some (formOf v, rest) else none
  | .string s, _, rest, ends, fuel + 1, room, _ => readForm?_string s ends fuel room
  | .integer n, _, rest, ends, fuel + 1, room, _ => (standsBare_ofInt n).readForm? ends fuel room
  | .boolean b, _, rest, ends, fuel + 1, room, _ => (standsBare_boolean b).readForm? ends fuel room
  | .array items, discrete, rest, ends, fuel + 1, room, enough => by
    have text : inline (.array items) ++ rest =
        '[' :: (joinedWith [',', ' '] (inlineItems items) ++ ']' :: rest) := by
      simp [inline]
    simp only [inline, List.length_cons, List.length_append, List.length_nil] at enough
    have read := readItems?_inline items discrete rest fuel (room - 1) (by omega)
    rw [text, readForm?, read, nested_eq, nesting, formOf]
  | .table [], _, rest, _, fuel + 1, room, enough => by
    have text : inline (.table []) ++ rest = '\x7b' :: '\x7d' :: rest := by
      simp [inline]
    have read : readEntries? fuel (room - 1) ('\x7d' :: rest) =
        if nestingOf [] ≤ room - 1 then some ([], rest) else none := by
      simp only [inline, List.isEmpty_nil, if_true, List.length_cons] at enough
      obtain ⟨fuel, rfl⟩ := Nat.exists_eq_succ_of_ne_zero (show fuel ≠ 0 by omega)
      simp [readEntries?, nestingOf, skipLayout_sign]
    rw [text, readForm?, read, nested_eq, nesting, formOf, entryFormsOf]
  | .table (e :: entries), discrete, rest, ends, fuel + 1, room, enough => by
    have text : inline (.table (e :: entries)) ++ rest = '\x7b' :: ' ' ::
        (joinedWith [',', ' '] (inlineEntries (e :: entries)) ++ ' ' :: '\x7d' :: rest) := by
      simp [inline]
    simp only [inline, List.isEmpty_cons, Bool.false_eq_true, if_false, List.length_cons,
      List.length_append, List.length_nil] at enough
    have read := readEntries?_inline (e :: entries) discrete rest fuel (room - 1) (by omega)
    rw [text, readForm?, readEntries?_blank, read, nested_eq, nesting, formOf]

theorem readItems?_inline : (items : List Toml) → areDiscrete items → ∀ (rest : List Char) fuel room,
    (joinedWith [',', ' '] (inlineItems items)).length + 1 < fuel →
      readItems? fuel room (joinedWith [',', ' '] (inlineItems items) ++ ']' :: rest) =
        if nestingIn items ≤ room then some (formsOf items, rest) else none
  | [], _, rest, fuel + 1, room, enough => by
    simp [inlineItems, joinedWith, readItems?, nestingIn, formsOf, skipLayout_sign]
  | [v], discrete, rest, fuel + 1, room, enough => by
    rw [areDiscrete, Bool.and_eq_true] at discrete
    rw [inlineItems, inlineItems, joinedWith] at enough ⊢
    obtain ⟨c, more, eq, starts⟩ := inline_head discrete.1
    have ends : EndsValue (']' :: rest) := ⟨']', rest, rfl, .inr (.inl rfl)⟩
    have read := readForm?_inline v discrete.1 ends fuel room (by omega)
    rw [eq, List.cons_append] at read ⊢
    rw [readItems?_cons starts, read, nestingIn, nestingIn, formsOf, formsOf]
    refine beside_eq _ _ _ _ ([], rest) (fun (forms, after) => (formOf v :: forms, after)) ?_
    rw [if_pos (Nat.zero_le room)]
    rfl
  | v :: w :: items, discrete, rest, fuel + 1, room, enough => by
    rw [areDiscrete, Bool.and_eq_true] at discrete
    rw [inlineItems, joinedWith_cons (by simp [inlineItems])] at enough ⊢
    obtain ⟨c, more, eq, starts⟩ := inline_head discrete.1
    simp only [List.length_append, List.length_cons, List.length_nil] at enough
    have others := readItems?_inline (w :: items) discrete.2 rest fuel room (by omega)
    rw [List.append_assoc, List.append_assoc]
    have ends : EndsValue
        ([',', ' '] ++ (joinedWith [',', ' '] (inlineItems (w :: items)) ++ ']' :: rest)) :=
      ⟨',', _, rfl, .inl rfl⟩
    have read := readForm?_inline v discrete.1 ends fuel room (by omega)
    rw [eq, List.cons_append] at read ⊢
    rw [readItems?_cons starts, read, nestingIn, formsOf]
    refine beside_eq _ _ _ _ (formsOf (w :: items), rest)
      (fun (forms, after) => (formOf v :: forms, after)) ?_
    simp only [List.cons_append, List.nil_append, skipLayout_sign (c := ',') (by decide), readItems?_blank,
      others]

theorem readEntries?_inline : (entries : List (String × Toml)) → haveDiscrete entries →
    ∀ (rest : List Char) fuel room,
      (joinedWith [',', ' '] (inlineEntries entries)).length + 1 < fuel →
        readEntries? fuel room
            (joinedWith [',', ' '] (inlineEntries entries) ++ ' ' :: '\x7d' :: rest) =
          if nestingOf entries ≤ room then some (entryFormsOf entries, rest) else none
  | [], _, rest, fuel + 1, room, enough => by
    simp [inlineEntries, joinedWith, readEntries?, nestingOf, entryFormsOf, skipLayout_sign]
  | [(key, v)], discrete, rest, fuel + 1, room, enough => by
    rw [haveDiscrete, Bool.and_eq_true] at discrete
    rw [inlineEntries, inlineEntries, joinedWith] at enough ⊢
    simp only [List.length_append] at enough
    have ends : EndsValue (' ' :: '\x7d' :: rest) := ⟨' ', _, rfl, .inr (.inr (.inl rfl))⟩
    have read := readForm?_inline v discrete.1 ends fuel room (by omega)
    rw [readEntries?_entry key discrete.1, read, nestingOf, nestingOf, entryFormsOf, entryFormsOf]
    refine beside_eq _ _ _ _ ([], rest)
      (fun (forms, after) => ((keyOf [] key, formOf v) :: forms, after)) ?_
    rw [if_pos (Nat.zero_le room)]
    rfl
  | (key, v) :: w :: entries, discrete, rest, fuel + 1, room, enough => by
    rw [haveDiscrete, Bool.and_eq_true] at discrete
    rw [inlineEntries, joinedWith_cons (by simp [inlineEntries])] at enough ⊢
    simp only [List.length_append, List.length_cons, List.length_nil] at enough
    have others := readEntries?_inline (w :: entries) discrete.2 rest fuel room (by omega)
    have ends : EndsValue
        ([',', ' '] ++ (joinedWith [',', ' '] (inlineEntries (w :: entries)) ++ ' ' :: '\x7d' :: rest)) :=
      ⟨',', _, rfl, .inl rfl⟩
    have read := readForm?_inline v discrete.1 ends fuel room (by omega)
    rw [List.append_assoc, List.append_assoc, readEntries?_entry key discrete.1, read, nestingOf,
      entryFormsOf]
    refine beside_eq _ _ _ _ (entryFormsOf (w :: entries), rest)
      (fun (forms, after) => ((keyOf [] key, formOf v) :: forms, after)) ?_
    simp only [List.cons_append, List.nil_append, skipLayout_sign (c := ',') (by decide), readEntries?_blank,
      others]

end

/-! ## What the forms stand for -/

def valueNodes (entries : Table) : Nodes := entries.map fun e => (e.1, .value e.2)

@[simp] theorem finished_valueNodes (entries : Table) : finished (valueNodes entries) = entries := by
  simp [finished, valueNodes, Function.comp_def, Node.finish]

theorem bind?_nil {key : String} {nodes : Nodes} (free : key ∉ nodes.map (·.1)) (v : Toml) :
    bind? [] key v nodes = some (nodes ++ [(key, .value v)]) := by
  simp [bind?, changeAt, lookup_eq_none_of_notMem free]

theorem along_of_lt {α : Type} {path : List String} (short : path.length < pathLimit)
    (result : Option α) : along path result = wellFormed result :=
  if_neg (Nat.not_le.mpr short)

theorem along_nil {α : Type} (result : Option α) : along [] result = wellFormed result :=
  along_of_lt (by decide) result

mutual

/-- The form in which a value is written stands for the value. -/
theorem formOf_value : (v : Toml) → isDiscrete v → InOrder v → (formOf v).value = .ok v
  | .string s, _, _ => by
    simp [formOf, Form.value, Lexeme.value?, content?_tail _ (Style.fits_ofValue s.toList), wellFormed]
  | .integer n, _, _ => by
    simp [formOf, Form.value, Lexeme.value?, inline, scalar?_ofInt, wellFormed]
  | .boolean b, _, _ => by
    cases b <;> rfl
  | .array items, discrete, order => by
    rw [formOf, Form.value, formsOf_values items discrete order]
    rfl
  | .table entries, discrete, order => by
    obtain ⟨increasing, order⟩ := order
    have built := entryFormsOf_values entries discrete order [] increasing nofun
    have finish : finishEntries (valueNodes entries) [] = entries :=
      finishEntries_eq increasing (by rw [finished_valueNodes])
    rw [formOf, Form.value, built, List.nil_append]
    exact congrArg (fun t => Except.ok (table t)) finish

theorem formsOf_values : (items : List Toml) → areDiscrete items → AllInOrder items →
    itemValues (formsOf items) = .ok items
  | [], _, _ => rfl
  | v :: items, discrete, order => by
    rw [areDiscrete, Bool.and_eq_true] at discrete
    rw [formsOf, itemValues, formOf_value v discrete.1 order.1,
      formsOf_values items discrete.2 order.2]
    rfl

theorem entryFormsOf_values : (entries : List (String × Toml)) → haveDiscrete entries →
    EntriesInOrder entries → ∀ nodes : Nodes, Increasing entries →
      (∀ e ∈ entries, e.1 ∉ nodes.map (·.1)) →
      entryValues (entryFormsOf entries) nodes = .ok (nodes ++ valueNodes entries)
  | [], _, _, nodes, _, _ => by simp [entryFormsOf, entryValues, valueNodes]
  | (key, v) :: entries, discrete, order, nodes, increasing, free => by
    rw [haveDiscrete, Bool.and_eq_true] at discrete
    obtain ⟨above, increasing⟩ := List.pairwise_cons.mp increasing
    have others := entryFormsOf_values entries discrete.2 order.2 (nodes ++ [(key, .value v)])
      increasing ?_
    · have bound := bind?_nil (free (key, v) List.mem_cons_self) v
      have short := along_nil (bind? [] key v nodes)
      rw [bound] at short
      rw [entryFormsOf, entryValues, keyOf_names, formOf_value v discrete.1 order.1]
      simp only [Except.bind, bound, short, wellFormed, others, valueNodes, List.map_cons,
        List.append_assoc, List.singleton_append]
    · intro e there
      have different : e.1 ≠ key := (String.ne_of_lt (above e there)).symm
      simpa [different] using free e (List.mem_cons_of_mem _ there)

end

end CompileDesk.Toml
