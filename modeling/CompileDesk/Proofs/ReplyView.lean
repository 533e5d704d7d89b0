import CompileDesk.Compilation.Verdict
import CompileDesk.Proofs.Json.Objects
import Mathlib.Logic.Relation

/-!
# What a verdict depends on

Of the object in a reply a verdict sees five things only: the assembly text, the diagram and the
reason of a refusal, each the first usable one of two fields, the flag of success, and the list of
symbols. Each of them counts as missing unless it has the kind that is asked for. So replies that
agree in these have one verdict, or one fault, whatever revision of the format they follow.
-/

namespace CompileDesk

/-- What is seen of the object in a reply. -/
structure ReplyView where
  assembly : Option String
  diagram : Option String
  message : Option String
  success : Option Bool
  symbols : Option (List Json)

namespace ReplyView

variable {f g : List (String × Json)} {name : String}

def text? (f : List (String × Json)) (name : String) : Option String :=
  (Json.field? f name).bind Json.asString?

/-- A text field that is not blank. -/
def message? (f : List (String × Json)) (name : String) : Option String :=
  (text? f name).filter fun m => !Text.blank m

def flag? (f : List (String × Json)) (name : String) : Option Bool :=
  match Json.field? f name with
  | some (.bool b) => some b
  | _ => none

def list? (f : List (String × Json)) (name : String) : Option (List Json) :=
  match Json.field? f name with
  | some (.array items) => some items
  | _ => none

/-- What is seen of an object: a field with a current name goes before the one with the older name. -/
def ofFields (f : List (String × Json)) : ReplyView where
  assembly := (text? f "asmCode").or (text? f "asmResult")
  diagram := (text? f "dotCode").or (text? f "dotResult")
  message := (message? f "error").or (message? f "message")
  success := flag? f "success"
  symbols := list? f "symbolTable"

/-- Two views with the same symbols but for the order of the fields in them. -/
structure Same (v v' : ReplyView) : Prop where
  assembly : v.assembly = v'.assembly
  diagram : v.diagram = v'.diagram
  message : v.message = v'.message
  success : v.success = v'.success
  symbols : Option.Rel (List.Forall₂ Json.Same) v.symbols v'.symbols

def verdict (status : Bool) (v : ReplyView) : Except ReplyFault Verdict :=
  if v.success.getD status then
    (Verdict.symbolsFrom 0 (v.symbols.getD [])).map fun symbols =>
      .compiled ⟨v.assembly.getD "", v.diagram, symbols⟩
  else .ok (.refused (v.message.getD Verdict.genericRefusal))

/-! ## The verdict depends on the view -/

theorem firstText?_pair (f : List (String × Json)) (current older : String) :
    Verdict.firstText? f [current, older] = (text? f current).or (text? f older) := by
  simp only [Verdict.firstText?, List.findSome?_cons, List.findSome?_nil, text?]
  cases (Json.field? f current).bind Json.asString? with
  | some t => rfl
  | none => cases (Json.field? f older).bind Json.asString? <;> rfl

theorem refusalReason_eq (f : List (String × Json)) : Verdict.refusalReason f =
    ((message? f "error").or (message? f "message")).getD Verdict.genericRefusal := by
  simp only [Verdict.refusalReason, message?, text?, List.filterMap_cons, List.filterMap_nil]
  cases (Json.field? f "error").bind Json.asString? with
  | none =>
    cases (Json.field? f "message").bind Json.asString? with
    | none => rfl
    | some m => cases h : Text.blank m <;> simp [h, Option.filter]
  | some e =>
    cases blank : Text.blank e with
    | false => simp [blank, Option.filter]
    | true =>
      cases (Json.field? f "message").bind Json.asString? with
      | none => simp [blank, Option.filter]
      | some m => cases h : Text.blank m <;> simp [blank, h, Option.filter]

theorem reportsSuccess_eq (status : Bool) (f : List (String × Json)) :
    Verdict.reportsSuccess status f = (flag? f "success").getD status := by
  rw [Verdict.reportsSuccess, flag?]
  cases Json.field? f "success" with
  | none => rfl
  | some v => cases v <;> rfl

theorem symbolTable_eq (f : List (String × Json)) :
    Verdict.symbolTable (Json.field? f "symbolTable") =
      Verdict.symbolsFrom 0 ((list? f "symbolTable").getD []) := by
  rw [list?]
  cases Json.field? f "symbolTable" with
  | none => rfl
  | some v => cases v <;> rfl

/-- The verdict on an object is the verdict on what is seen of it. -/
theorem verdict_ofFields (status : Bool) (f : List (String × Json)) :
    Verdict.ofFields status f = (ofFields f).verdict status := by
  rw [Verdict.ofFields, reportsSuccess_eq, symbolTable_eq, firstText?_pair, firstText?_pair,
    refusalReason_eq]
  rfl

/-! ## Views that are the same -/

theorem unexpected_congr {v v' : Json} (h : Json.Same v v') :
    Verdict.unexpected v = Verdict.unexpected v' := by
  cases h <;> rfl

theorem textField_congr (h : Option.Rel Json.Same (Json.field? f name) (Json.field? g name)) :
    Verdict.textField f name = Verdict.textField g name := by
  rw [Verdict.textField, Verdict.textField]
  generalize Json.field? f name = found, Json.field? g name = found' at h
  cases h with
  | none => rfl
  | some same =>
    have named := unexpected_congr same
    cases same <;> simp_all

theorem nullableField_congr (h : Option.Rel Json.Same (Json.field? f name) (Json.field? g name)) :
    Verdict.nullableField f name = Verdict.nullableField g name := by
  have text := textField_congr h
  rw [Verdict.nullableField, Verdict.nullableField, text]
  generalize Json.field? f name = found, Json.field? g name = found' at h
  cases h with
  | none => rfl
  | some same => cases same <;> rfl

theorem symbolOf_congr {v v' : Json} (h : Json.Same v v') :
    Verdict.symbolOf v = Verdict.symbolOf v' := by
  cases h with
  | object each =>
    simp only [Verdict.symbolOf, nullableField_congr (each "address"), textField_congr (each "name"),
      textField_congr (each "scope"), textField_congr (each "type")]
  | _ => rfl

theorem symbolsFrom_congr {items items' : List Json} (h : List.Forall₂ Json.Same items items')
    (index : Nat) : Verdict.symbolsFrom index items = Verdict.symbolsFrom index items' := by
  induction h generalizing index with
  | nil => rfl
  | cons same rest ih =>
    rw [Verdict.symbolsFrom, Verdict.symbolsFrom, symbolOf_congr same, ih]

theorem Same.of_eq {v v' : ReplyView} (h : v = v') : v.Same v' := by
  subst h
  refine ⟨rfl, rfl, rfl, rfl, ?_⟩
  cases v.symbols with
  | none => exact .none
  | some items => exact .some (List.forall₂_same.mpr fun item _ => Json.Same.refl item)

/-- Views that are the same have one verdict or one fault. -/
theorem Same.verdict_eq {v v' : ReplyView} (h : v.Same v') (status : Bool) :
    v.verdict status = v'.verdict status := by
  have symbols : Verdict.symbolsFrom 0 (v.symbols.getD []) =
      Verdict.symbolsFrom 0 (v'.symbols.getD []) := by
    have same := h.symbols
    generalize v.symbols = found, v'.symbols = found' at same
    cases same with
    | none => rfl
    | some same => exact symbolsFrom_congr same 0
  rw [verdict, verdict, symbols, h.assembly, h.diagram, h.message, h.success]

/-! ## Changes that cannot be seen -/

/-- The fields that a verdict looks at. -/
def names : List String :=
  ["asmCode", "asmResult", "dotCode", "dotResult", "error", "message", "success", "symbolTable"]

/-- The older names of fields, each with the current one. -/
def aliases : List (String × String) := [("asmResult", "asmCode"), ("dotResult", "dotCode")]

/-- An object with the field of one name under another name, where it takes the place of what was
there. -/
def renamed (older current : String) (f : List (String × Json)) : List (String × Json) :=
  (f.filter (·.1 != current)).map fun field => (if field.1 = older then current else field.1, field.2)

/-- A change to an object that leaves its meaning as it is. -/
inductive Revised : List (String × Json) → List (String × Json) → Prop where
  /-- A field gets its current name, under which there was no text. -/
  | renamed {older current : String} (f : List (String × Json))
      (isAlias : (older, current) ∈ aliases) (free : text? f current = none) :
      Revised f (renamed older current f)
  /-- Fields are put in another order; those with one name stay in their order. -/
  | reordered {f g : List (String × Json)}
      (same : ∀ name, Json.valuesOf f name = Json.valuesOf g name) : Revised f g
  /-- A field with another name is put somewhere. -/
  | added (before after : List (String × Json)) {name : String} (value : Json)
      (unknown : name ∉ names) : Revised (before ++ after) (before ++ (name, value) :: after)

section Renamed

variable {older current : String}

theorem renamed_cons_current (older current : String) (v : Json) (f : List (String × Json)) :
    renamed older current ((current, v) :: f) = renamed older current f := by
  simp [renamed]

theorem renamed_cons_older (differ : older ≠ current) (v : Json) (f : List (String × Json)) :
    renamed older current ((older, v) :: f) = (current, v) :: renamed older current f := by
  simp [renamed, differ]

theorem renamed_cons_of_ne (notOlder : name ≠ older) (notCurrent : name ≠ current) (v : Json)
    (f : List (String × Json)) :
    renamed older current ((name, v) :: f) = (name, v) :: renamed older current f := by
  simp [renamed, notOlder, notCurrent]

theorem valuesOf_renamed_current (differ : older ≠ current) (f : List (String × Json)) :
    Json.valuesOf (renamed older current f) current = Json.valuesOf f older := by
  induction f with
  | nil => rfl
  | cons field f ih =>
    obtain ⟨name, v⟩ := field
    by_cases isCurrent : name = current
    · rw [isCurrent, renamed_cons_current, Json.valuesOf_cons_of_ne differ.symm, ih]
    by_cases isOlder : name = older
    · rw [isOlder, renamed_cons_older differ, Json.valuesOf_cons_self, Json.valuesOf_cons_self, ih]
    · rw [renamed_cons_of_ne isOlder isCurrent, Json.valuesOf_cons_of_ne isCurrent,
        Json.valuesOf_cons_of_ne isOlder, ih]

theorem valuesOf_renamed_older (differ : older ≠ current) (f : List (String × Json)) :
    Json.valuesOf (renamed older current f) older = [] := by
  induction f with
  | nil => rfl
  | cons field f ih =>
    obtain ⟨name, v⟩ := field
    by_cases isCurrent : name = current
    · rw [isCurrent, renamed_cons_current, ih]
    by_cases isOlder : name = older
    · rw [isOlder, renamed_cons_older differ, Json.valuesOf_cons_of_ne differ.symm, ih]
    · rw [renamed_cons_of_ne isOlder isCurrent, Json.valuesOf_cons_of_ne isOlder, ih]

theorem valuesOf_renamed_of_ne (differ : older ≠ current) (notOlder : older ≠ name)
    (notCurrent : current ≠ name) (f : List (String × Json)) :
    Json.valuesOf (renamed older current f) name = Json.valuesOf f name := by
  induction f with
  | nil => rfl
  | cons field f ih =>
    obtain ⟨name', v⟩ := field
    by_cases isCurrent : name' = current
    · rw [isCurrent, renamed_cons_current, Json.valuesOf_cons_of_ne notCurrent, ih]
    by_cases isOlder : name' = older
    · rw [isOlder, renamed_cons_older differ, Json.valuesOf_cons_of_ne notCurrent,
        Json.valuesOf_cons_of_ne notOlder, ih]
    · rw [renamed_cons_of_ne isOlder isCurrent, Json.valuesOf_cons, ih, ← Json.valuesOf_cons]

theorem text?_renamed_current (differ : older ≠ current) (f : List (String × Json)) :
    text? (renamed older current f) current = text? f older := by
  rw [text?, text?, Json.field?_eq_getLast?, Json.field?_eq_getLast?,
    valuesOf_renamed_current differ]

theorem text?_renamed_older (differ : older ≠ current) (f : List (String × Json)) :
    text? (renamed older current f) older = none := by
  rw [text?, Json.field?_eq_getLast?, valuesOf_renamed_older differ]
  rfl

end Renamed

theorem ofFields_ext
    (assembly : (text? f "asmCode").or (text? f "asmResult") =
      (text? g "asmCode").or (text? g "asmResult"))
    (diagram : (text? f "dotCode").or (text? f "dotResult") =
      (text? g "dotCode").or (text? g "dotResult"))
    (others : ∀ name ∈ ["error", "message", "success", "symbolTable"],
      Json.field? f name = Json.field? g name) : ofFields f = ofFields g := by
  simp only [ofFields, assembly, diagram]
  simp only [text?, message?, flag?, list?, others "error" (by decide),
    others "message" (by decide), others "success" (by decide), others "symbolTable" (by decide)]

theorem ofFields_congr (same : ∀ name ∈ names, Json.field? f name = Json.field? g name) :
    ofFields f = ofFields g := by
  have text (name : String) (there : name ∈ names) : text? f name = text? g name := by
    rw [text?, same name there, text?]
  apply ofFields_ext
  · rw [text "asmCode" (by decide), text "asmResult" (by decide)]
  · rw [text "dotCode" (by decide), text "dotResult" (by decide)]
  · intro name there
    exact same name (List.mem_of_mem_drop (i := 4) there)

theorem ofFields_renamed {older current : String} (isAlias : (older, current) ∈ aliases)
    (free : text? f current = none) : ofFields (renamed older current f) = ofFields f := by
  -- Both aliases are handled at once, but for the place where the moved text is looked for.
  have differ : ∀ pair ∈ aliases, pair.1 ≠ pair.2 ∧
      ∀ name ∈ ["error", "message", "success", "symbolTable"],
        pair.1 ≠ name ∧ pair.2 ≠ name := by decide
  replace differ := differ _ isAlias
  have kept {name : String} (notOlder : older ≠ name) (notCurrent : current ≠ name) :
      Json.field? (renamed older current f) name = Json.field? f name :=
    Json.field?_congr (valuesOf_renamed_of_ne differ.1 notOlder notCurrent f)
  have moved : (text? (renamed older current f) current).or (text? (renamed older current f) older) =
      (text? f current).or (text? f older) := by
    rw [text?_renamed_current differ.1, text?_renamed_older differ.1, free, Option.or_none,
      Option.none_or]
  have beside {name : String} (notOlder : older ≠ name) (notCurrent : current ≠ name) :
      text? (renamed older current f) name = text? f name := by
    rw [text?, kept notOlder notCurrent, text?]
  have others : ∀ name ∈ ["error", "message", "success", "symbolTable"],
      Json.field? (renamed older current f) name = Json.field? f name := by
    intro name there
    exact kept (differ.2 name there).1 (differ.2 name there).2
  simp only [aliases, List.mem_cons, List.not_mem_nil, or_false, Prod.mk.injEq] at isAlias
  obtain ⟨rfl, rfl⟩ | ⟨rfl, rfl⟩ := isAlias
  · refine ofFields_ext moved ?_ others
    rw [beside (by decide) (by decide), beside (by decide) (by decide)]
  · refine ofFields_ext ?_ moved others
    rw [beside (by decide) (by decide), beside (by decide) (by decide)]

/-- What leaves the meaning of an object as it is cannot be seen. -/
theorem Revised.ofFields_eq (h : Revised f g) : ofFields f = ofFields g := by
  cases h with
  | renamed f isAlias free => exact (ofFields_renamed isAlias free).symm
  | reordered same => exact ofFields_congr fun name _ => Json.field?_congr (same name)
  | @added before after other value unknown =>
    refine ofFields_congr fun name there => Json.field?_congr ?_
    have differ : other ≠ name := fun same => unknown (same ▸ there)
    rw [Json.valuesOf_append, Json.valuesOf_append, Json.valuesOf_cons_of_ne differ]

theorem ofFields_eq_of_eqvGen (h : Relation.EqvGen Revised f g) : ofFields f = ofFields g := by
  induction h with
  | rel f g revised => exact revised.ofFields_eq
  | refl f => rfl
  | symm f g _ ih => exact ih.symm
  | trans f g h _ _ first second => exact first.trans second

/-! ## Replies -/

theorem ofReply_eq {body : String} (reads : Json.parse body = .ok (.object f)) (status : Nat) :
    Verdict.ofReply ⟨status, body⟩ =
      if status = sessionExpiredStatus then .ok .sessionExpired
      else (ofFields f).verdict (Reply.isSuccess ⟨status, body⟩) := by
  by_cases expired : status = sessionExpiredStatus
  · simp [Verdict.ofReply, expired]
  · have notExpired : (status == sessionExpiredStatus) = false := beq_false_of_ne expired
    simp only [Verdict.ofReply, notExpired, reads, verdict_ofFields, Bool.false_eq_true, ↓reduceIte,
      expired]

theorem ofReply_congr {body body' : String} (reads : Json.parse body = .ok (.object f))
    (reads' : Json.parse body' = .ok (.object g)) (status : Nat)
    (same : (ofFields f).Same (ofFields g)) :
    Verdict.ofReply ⟨status, body⟩ = Verdict.ofReply ⟨status, body'⟩ := by
  rw [ofReply_eq reads, ofReply_eq reads', same.verdict_eq]
  rfl

/-- The status that ends the session decides alone; under every other one the verdict is that on what
is seen of the body. So replies with one status have one verdict or one fault if their bodies are
objects of which the same is seen, in particular if the objects come from each other by giving fields
their current names, by reordering fields, and by adding fields with unknown names. -/
theorem verdict_depends_on_view {body body' : String} (reads : Json.parse body = .ok (.object f))
    (reads' : Json.parse body' = .ok (.object g)) (status : Nat) :
    (Verdict.ofReply ⟨status, body⟩ =
      if status = sessionExpiredStatus then .ok .sessionExpired
      else (ofFields f).verdict (Reply.isSuccess ⟨status, body⟩)) ∧
    ((ofFields f).Same (ofFields g) →
      Verdict.ofReply ⟨status, body⟩ = Verdict.ofReply ⟨status, body'⟩) ∧
    (Relation.EqvGen Revised f g →
      Verdict.ofReply ⟨status, body⟩ = Verdict.ofReply ⟨status, body'⟩) := by
  refine ⟨ofReply_eq reads status, ?_, ?_⟩
  · intro same
    exact ofReply_congr reads reads' status same
  · intro revised
    exact ofReply_congr reads reads' status (.of_eq (ofFields_eq_of_eqvGen revised))

def olderFields : List (String × Json) :=
  [("asmResult", .string "mov"), ("asmCode", .null),
    ("symbolTable", .array [.object [("type", .string "int"), ("name", .string "x")]])]

def currentFields : List (String × Json) :=
  [("hint", .array [.null]),
    ("symbolTable", .array [.object [("type", .string "int"), ("name", .string "x")]]),
    ("asmCode", .string "mov")]

def sortedFields : List (String × Json) :=
  [("asmCode", .string "mov"),
    ("symbolTable", .array [.object [("name", .string "x"), ("type", .string "int")]])]

def olderBody : String :=
  "\x7b\"asmResult\":\"mov\",\"asmCode\":null,\"symbolTable\":[\x7b\"type\":\"int\",\"name\":\"x\"\x7d]\x7d"

def currentBody : String :=
  "\x7b\"hint\":[null],\"symbolTable\":[\x7b\"type\":\"int\",\"name\":\"x\"\x7d],\"asmCode\":\"mov\"\x7d"

def sortedBody : String :=
  "\x7b\"asmCode\":\"mov\",\"symbolTable\":[\x7b\"name\":\"x\",\"type\":\"int\"\x7d]\x7d"

theorem revised_currentFields : Relation.EqvGen Revised olderFields currentFields := by
  have named : Revised olderFields (renamed "asmResult" "asmCode" olderFields) :=
    .renamed olderFields (by decide) rfl
  have hinted : Revised (renamed "asmResult" "asmCode" olderFields)
      (("hint", .array [.null]) :: renamed "asmResult" "asmCode" olderFields) :=
    .added [] _ (.array [.null]) (by decide)
  have moved : Revised (("hint", .array [.null]) :: renamed "asmResult" "asmCode" olderFields)
      currentFields :=
    .reordered (Json.valuesOf_of_perm ((List.Perm.swap _ _ []).cons _) (by decide))
  exact .trans _ _ _ (.rel _ _ named) (.trans _ _ _ (.rel _ _ hinted) (.rel _ _ moved))

theorem same_sortedFields : (ofFields olderFields).Same (ofFields sortedFields) where
  assembly := rfl
  diagram := rfl
  message := rfl
  success := rfl
  symbols := .some (.cons (Json.Same.of_perm (List.Perm.swap _ _ _) (by decide)) .nil)

theorem verdict_of_olderBody :
    Verdict.ofReply ⟨200, olderBody⟩ = Verdict.ofReply ⟨200, currentBody⟩ ∧
    Verdict.ofReply ⟨200, olderBody⟩ = Verdict.ofReply ⟨200, sortedBody⟩ := by
  have older : Json.parse olderBody = .ok (.object olderFields) := by cbv
  have current : Json.parse currentBody = .ok (.object currentFields) := by cbv
  have sorted : Json.parse sortedBody = .ok (.object sortedFields) := by cbv
  constructor
  · exact (verdict_depends_on_view older current 200).2.2 revised_currentFields
  · exact (verdict_depends_on_view older sorted 200).2.1 same_sortedFields

end ReplyView
end CompileDesk
