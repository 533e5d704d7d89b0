import CompileDesk.Compilation.Verdict
import CompileDesk.Proofs.Json.Objects
import CompileDesk.Proofs.Json.Texts

/-!
# A reply says what the service put into it

The service answers a compiled program with an object: the flag of success, the assembly text, the
table of symbols, and the diagram if there is one. Its fields come in any order, strings are escaped
in any way, and white space stands between tokens. The verdict on every such reply is the program
that was put into it.
-/

namespace CompileDesk

/-! ## What the service sends -/

def Json.nullable : Option String → Json
  | some s => .string s
  | none => .null

/-- The fields of a symbol. -/
def Symbol.fields (s : Symbol) : List (String × Json) :=
  [("name", .string s.name), ("type", .string s.kind), ("scope", .string s.scope),
    ("address", .nullable s.address)]

/-- The value is an object with the fields of the symbol. -/
def Symbol.SentAs (s : Symbol) (v : Json) : Prop := ∃ fields, v = .object fields ∧ fields.Perm s.fields

/-- The field of a diagram; where there is none, the field holds null or is left out. -/
inductive DiagramSentAs : Option String → List (String × Json) → Prop where
  | present (d : String) : DiagramSentAs (some d) [("dotCode", .string d)]
  | null : DiagramSentAs none [("dotCode", .null)]
  | leftOut : DiagramSentAs none []

/-- The fields besides that of the diagram. -/
def Artifacts.fields (a : Artifacts) (table : List Json) : List (String × Json) :=
  [("success", .bool true), ("asmCode", .string a.assembly), ("symbolTable", .array table)]

/-- The fields are those of an object for the compiled program. -/
def Artifacts.SentAs (a : Artifacts) (fields : List (String × Json)) : Prop :=
  ∃ table diagram, List.Forall₂ Symbol.SentAs a.symbols table ∧ DiagramSentAs a.diagram diagram ∧
    fields.Perm (a.fields table ++ diagram)

/-! ## Symbols -/

section Fields

variable {f g : List (String × Json)} {name text : String}

theorem Verdict.textField_eq (there : Json.field? f name = some (.string text)) :
    Verdict.textField f name = .ok (some text) := by
  rw [Verdict.textField, there]

theorem Verdict.nullableField_eq {content : Option String}
    (there : Json.field? f name = some (.nullable content)) :
    Verdict.nullableField f name = .ok content := by
  cases content with
  | none =>
    rw [Verdict.nullableField, there]
    rfl
  | some text =>
    rw [Verdict.nullableField, there]
    exact textField_eq there

theorem Verdict.firstText?_first (there : Json.field? f name = some (.string text))
    (others : List String) : Verdict.firstText? f (name :: others) = some text := by
  simp [Verdict.firstText?, there, Json.asString?]

end Fields

theorem Symbol.SentAs.symbolOf {s : Symbol} {v : Json} (h : s.SentAs v) :
    Verdict.symbolOf v = .ok s := by
  obtain ⟨fields, rfl, perm⟩ := h
  have distinct : (s.fields.map (·.1)).Nodup := by simp [Symbol.fields]
  have found := Json.field?_of_perm perm distinct
  have address : Verdict.nullableField fields "address" = .ok s.address :=
    Verdict.nullableField_eq (found "address")
  have name : Verdict.textField fields "name" = .ok (some s.name) :=
    Verdict.textField_eq (found "name")
  have scope : Verdict.textField fields "scope" = .ok (some s.scope) :=
    Verdict.textField_eq (found "scope")
  have kind : Verdict.textField fields "type" = .ok (some s.kind) :=
    Verdict.textField_eq (found "type")
  rw [Verdict.symbolOf, address, name, scope, kind]
  rfl

theorem Verdict.symbolsFrom_of_sentAs {symbols : List Symbol} {table : List Json}
    (h : List.Forall₂ Symbol.SentAs symbols table) (index : Nat) :
    Verdict.symbolsFrom index table = .ok symbols := by
  induction h generalizing index with
  | nil => rfl
  | cons first rest ih =>
    rw [Verdict.symbolsFrom, first.symbolOf, ih]
    rfl

/-! ## Programs -/

variable {a : Artifacts} {fields diagram : List (String × Json)} {table : List Json}

theorem DiagramSentAs.distinct {d : Option String} (h : DiagramSentAs d diagram) :
    ((a.fields table ++ diagram).map (·.1)).Nodup := by
  cases h <;> simp [Artifacts.fields]

theorem DiagramSentAs.field?_of_ne {d : Option String} {name : String}
    (h : DiagramSentAs d diagram) (other : "dotCode" ≠ name) (f : List (String × Json)) :
    Json.field? (f ++ diagram) name = Json.field? f name := by
  have absent : Json.valuesOf diagram name = [] := by
    cases h with
    | leftOut => rfl
    | null | present => exact Json.valuesOf_cons_of_ne other _ []
  apply Json.field?_congr
  rw [Json.valuesOf_append, absent, List.append_nil]

theorem DiagramSentAs.firstText? {d : Option String} (h : DiagramSentAs d diagram)
    (found : ∀ name, Json.field? fields name = Json.field? (a.fields table ++ diagram) name) :
    Verdict.firstText? fields ["dotCode", "dotResult"] = d := by
  rw [Verdict.firstText?, List.findSome?_cons, List.findSome?_cons, found, found]
  cases h <;> rfl

theorem Artifacts.SentAs.verdict (h : a.SentAs fields) (status : Bool) :
    Verdict.ofFields status fields = .ok (.compiled a) := by
  obtain ⟨table, diagram, symbols, sent, perm⟩ := h
  have found := Json.field?_of_perm perm sent.distinct
  have beside {name : String} (other : "dotCode" ≠ name) :
      Json.field? fields name = Json.field? (a.fields table) name := by
    rw [found, sent.field?_of_ne other]
  have success : Verdict.reportsSuccess status fields = true := by
    rw [Verdict.reportsSuccess, beside (by decide)]
    rfl
  have entries : Verdict.symbolTable (Json.field? fields "symbolTable") = .ok a.symbols := by
    rw [beside (by decide)]
    exact Verdict.symbolsFrom_of_sentAs symbols 0
  have assembly : Verdict.firstText? fields ["asmCode", "asmResult"] = some a.assembly :=
    Verdict.firstText?_first (beside (by decide)) _
  rw [Verdict.ofFields, success, entries, assembly, sent.firstText? found]
  rfl

/-! ## Texts -/

theorem Symbol.SentAs.nesting_le {s : Symbol} {v : Json} (h : s.SentAs v) : v.nesting ≤ 1 := by
  obtain ⟨fields, rfl, perm⟩ := h
  refine Nat.succ_le_succ (Json.nestingOf_le fun field there => ?_)
  rw [perm.mem_iff] at there
  have flat : ∀ field ∈ s.fields, field.2.nesting = 0 := by
    cases address : s.address <;> simp [Symbol.fields, Json.nullable, Json.nesting, address]
  exact (flat field there).le

theorem nestingIn_of_sentAs {symbols : List Symbol} (h : List.Forall₂ Symbol.SentAs symbols table) :
    Json.nestingIn table ≤ 1 := by
  induction h with
  | nil => exact Nat.zero_le 1
  | cons first rest ih => exact max_le first.nesting_le ih

theorem DiagramSentAs.nesting_eq {d : Option String} (h : DiagramSentAs d diagram) :
    ∀ field ∈ diagram, field.2.nesting = 0 := by
  cases h <;> simp [Json.nesting]

theorem Artifacts.SentAs.nesting_le (h : a.SentAs fields) : (Json.object fields).nesting ≤ 3 := by
  obtain ⟨table, diagram, symbols, sent, perm⟩ := h
  have entries := nestingIn_of_sentAs symbols
  have each : ∀ field ∈ a.fields table, field.2.nesting ≤ 2 := by
    simp [Artifacts.fields, Json.nesting, entries]
  refine Nat.succ_le_succ (Json.nestingOf_le fun field there => ?_)
  rw [perm.mem_iff, List.mem_append] at there
  obtain there | there := there
  · exact each field there
  · rw [sent.nesting_eq field there]
    exact Nat.zero_le 2

theorem Artifacts.SentAs.ofReply (h : a.SentAs fields) {status : Nat}
    (isOpen : status ≠ sessionExpiredStatus) {body : String}
    (spells : Json.Spells (.object fields) body.toList) :
    Verdict.ofReply ⟨status, body⟩ = .ok (.compiled a) := by
  have shallow : (Json.object fields).nesting < Json.maxDepth := h.nesting_le.trans_lt (by decide)
  have notExpired : (status == sessionExpiredStatus) = false := beq_false_of_ne isOpen
  simp only [Verdict.ofReply, notExpired, spells.parse shallow, h.verdict, Bool.false_eq_true,
    ↓reduceIte]

def Artifacts.entries (a : Artifacts) : List Json := a.symbols.map fun s => .object s.fields

def Artifacts.object (a : Artifacts) : List (String × Json) :=
  a.fields a.entries ++ [("dotCode", .nullable a.diagram)]

theorem Artifacts.sentAs_object (a : Artifacts) : a.SentAs a.object := by
  have symbols : List.Forall₂ Symbol.SentAs a.symbols a.entries := by
    rw [Artifacts.entries, List.forall₂_map_right_iff]
    exact List.forall₂_same.mpr fun s _ => ⟨s.fields, rfl, .refl _⟩
  have diagram : DiagramSentAs a.diagram [("dotCode", .nullable a.diagram)] := by
    cases a.diagram with
    | none => exact .null
    | some d => exact .present d
  exact ⟨a.entries, _, symbols, diagram, .refl _⟩

theorem spells_nullable (content : Option String) :
    Json.Spells (.nullable content) (Json.nullable content).render := by
  cases content with
  | none => exact .null
  | some text => exact Json.spells_render_string text

theorem spells_symbol (s : Symbol) : Json.Spells (.object s.fields) (Json.object s.fields).render := by
  apply Json.spells_render_object
  simp only [Symbol.fields, List.forall_mem_cons]
  exact ⟨Json.spells_render_string s.name, Json.spells_render_string s.kind,
    Json.spells_render_string s.scope, spells_nullable s.address, by simp⟩

theorem Artifacts.spells_object (a : Artifacts) :
    Json.Spells (.object a.object) (Json.object a.object).render := by
  have entries : Json.Spells (.array a.entries) (Json.array a.entries).render := by
    apply Json.spells_render_array
    simp only [Artifacts.entries, List.forall_mem_map]
    exact fun s _ => spells_symbol s
  apply Json.spells_render_object
  simp only [Artifacts.object, Artifacts.fields, List.cons_append, List.nil_append,
    List.forall_mem_cons]
  exact ⟨.bool true, Json.spells_render_string a.assembly, entries, spells_nullable a.diagram,
    by simp⟩

/-- Whatever is compiled, every text of an object for it is read as it, under every status but the
one that ends the session; and the text that the writer makes is one of these. -/
theorem Verdict.ofReply_of_sentAs (a : Artifacts) {status : Nat}
    (isOpen : status ≠ sessionExpiredStatus) :
    (∀ fields body, a.SentAs fields → Json.Spells (.object fields) body.toList →
      Verdict.ofReply ⟨status, body⟩ = .ok (.compiled a)) ∧
    Verdict.ofReply ⟨status, String.ofList (Json.object a.object).render⟩ = .ok (.compiled a) := by
  constructor
  · intro fields body sent spells
    exact sent.ofReply isOpen spells
  · have spells := a.spells_object
    rw [← String.toList_ofList (l := (Json.object a.object).render)] at spells
    exact a.sentAs_object.ofReply isOpen spells

def smallProgram : Artifacts := ⟨"é𝄞", none, [⟨"x", "int", "", none⟩]⟩

def smallEntry : List (String × Json) :=
  [("address", .null), ("name", .string "x"), ("type", .string "int"), ("scope", .string "")]

def smallObject : List (String × Json) :=
  [("asmCode", .string "é𝄞"), ("symbolTable", .array [.object smallEntry]), ("success", .bool true)]

def smallBody : String :=
  "\x7b \"asmCode\":\"\\u00e9\\uD834\\udd1e\",\"symbolTable\" : [\x7b\"address\":null,\"name\":\"x\"," ++
  "\"type\":\"int\",\"scope\":\"\"\x7d],\"success\":true\x7d\n"

theorem sentAs_smallObject : smallProgram.SentAs smallObject := by
  have entry : Symbol.SentAs ⟨"x", "int", "", none⟩ (.object smallEntry) :=
    ⟨smallEntry, rfl, @List.perm_append_comm _ [_] [_, _, _]⟩
  exact ⟨[.object smallEntry], [], .cons entry .nil, .leftOut, @List.perm_append_comm _ [_, _] [_]⟩

theorem spells_smallBody : Json.Spells (.object smallObject) smallBody.toList := by
  have blank : Json.IsSpace [' '] := by simp [Json.IsSpace]
  have lineEnd : Json.IsSpace ['\n'] := by simp [Json.IsSpace]
  have e9 : Json.IsUnit ['0', '0', 'e', '9'] 0xE9 :=
    @Json.IsUnit.digits _ _ _ _ 0 0 14 9 (.inl rfl) (.inl rfl) (.inl rfl) (.inl rfl)
  have d834 : Json.IsUnit ['D', '8', '3', '4'] 0xD834 :=
    @Json.IsUnit.digits _ _ _ _ 13 8 3 4 (.inr rfl) (.inr rfl) (.inr rfl) (.inr rfl)
  have dd1e : Json.IsUnit ['d', 'd', '1', 'e'] 0xDD1E :=
    @Json.IsUnit.digits _ _ _ _ 13 13 1 14 (.inl rfl) (.inl rfl) (.inl rfl) (.inl rfl)
  have acute : Json.Spelled 'é' _ := .unit e9
  have clef : Json.Spelled '𝄞' _ := @Json.Spelled.surrogates _ _ _ 0x34 0x11E d834 dd1e (by decide) rfl
  have assembly : Json.Quotes "é𝄞" _ := ⟨_, .cons acute (.cons clef .nil), rfl⟩
  have entry : Json.Spells (.object smallEntry) (Json.object smallEntry).render := by
    apply Json.spells_render_object
    simp only [smallEntry, List.forall_mem_cons]
    exact ⟨.null, Json.spells_render_string _, Json.spells_render_string _,
      Json.spells_render_string _, by simp⟩
  have table : Json.Spells (.array [.object smallEntry]) _ :=
    .spaced blank (.array (.last entry)) Json.isSpace_nil
  have object : Json.Spells (.object smallObject) _ := .object <|
    .cons blank (Json.quotes_quoted "asmCode") Json.isSpace_nil (.string assembly) <|
    .cons Json.isSpace_nil (Json.quotes_quoted "symbolTable") blank table <|
    .last Json.isSpace_nil (Json.quotes_quoted "success") Json.isSpace_nil (.bool true)
  have whole := Json.Spells.spaced Json.isSpace_nil object lineEnd
  convert whole using 1
  cbv

theorem Verdict.ofReply_smallBody : 502 ≠ sessionExpiredStatus ∧
    Verdict.ofReply ⟨502, smallBody⟩ = .ok (.compiled smallProgram) := by
  have isOpen : 502 ≠ sessionExpiredStatus := by decide
  exact ⟨isOpen, (Verdict.ofReply_of_sentAs smallProgram isOpen).1 smallObject smallBody
    sentAs_smallObject spells_smallBody⟩

end CompileDesk
