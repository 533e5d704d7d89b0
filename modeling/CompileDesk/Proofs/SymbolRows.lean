import CompileDesk.Proofs.HeadlessAgreement
import CompileDesk.Proofs.ReplyClasses
import CompileDesk.Proofs.Results
import Mathlib.Order.Bounds.Defs

/-!
# From a table of symbols to rows

An entry of a table has a row if it is an object with texts for name, type and scope and with a text or null for
the address, each of which may be missing. A table is read whole or not at all: if all entries have rows
then the pane holds these, else the reply is unreadable, the fault names the first entry without a row, and
the panes stay as empty as they were since the program was taken.
-/

namespace CompileDesk

namespace Verdict

variable {fields : List (String × Json)} {name text : String}

/-! ## Entries -/

/-- The text of an entry under a name; a missing one counts as empty. -/
inductive TextOf (fields : List (String × Json)) (name : String) : String → Prop
  | missing (absent : Json.field? fields name = none) : TextOf fields name ""
  | present {text : String} (found : Json.field? fields name = some (.string text)) :
    TextOf fields name text

/-- The address that is shown for an entry. -/
inductive AddressOf (fields : List (String × Json)) : String → Prop
  | missing (absent : Json.field? fields "address" = none) : AddressOf fields "N/A"
  | null (found : Json.field? fields "address" = some .null) : AddressOf fields "N/A"
  | blank {text : String} (found : Json.field? fields "address" = some (.string text))
    (blank : Text.blank text = true) : AddressOf fields "N/A"
  | present {text : String} (found : Json.field? fields "address" = some (.string text))
    (notBlank : Text.blank text = false) : AddressOf fields text

/-- The row of an entry. -/
inductive RowOf : Json → SymbolRow → Prop
  | entry {fields : List (String × Json)} {name kind scope address : String}
    (named : TextOf fields "name" name) (ofKind : TextOf fields "type" kind)
    (inScope : TextOf fields "scope" scope) (placed : AddressOf fields address) :
    RowOf (.object fields) (.entry name kind scope address)

def HasRow (v : Json) : Prop := ∃ row, RowOf v row

theorem AddressOf.not_blank {address : String} (h : AddressOf fields address) :
    Text.blank address = false := by
  cases h with
  | present _ notBlank => exact notBlank
  | _ => decide

theorem textOf_iff : TextOf fields name text ↔
    ∃ found, textField fields name = .ok found ∧ found.getD "" = text := by
  rw [textField]
  constructor
  · intro h
    cases h with
    | missing absent => exact ⟨none, by rw [absent], rfl⟩
    | present found => exact ⟨some text, by rw [found], rfl⟩
  · rintro ⟨found, read, rfl⟩
    split at read
    · rename_i absent
      cases read
      exact .missing absent
    · rename_i there
      cases read
      exact .present there
    · cases read

def shownAddress (address : Option String) : String := Symbol.displayAddress ⟨"", "", "", address⟩

theorem shownAddress_of_blank (h : Text.blank text = true) : shownAddress (some text) = "N/A" := by
  simp [shownAddress, Symbol.displayAddress, h, missingAddress]

theorem shownAddress_of_not_blank (h : Text.blank text = false) : shownAddress (some text) = text := by
  simp [shownAddress, Symbol.displayAddress, h]

theorem addressOf_iff : AddressOf fields text ↔
    ∃ found, nullableField fields "address" = .ok found ∧ shownAddress found = text := by
  rw [nullableField, textField]
  constructor
  · intro h
    cases h with
    | missing absent => exact ⟨none, by rw [absent], rfl⟩
    | null found => exact ⟨none, by rw [found], rfl⟩
    | @blank address found blank => exact ⟨some address, by rw [found], shownAddress_of_blank blank⟩
    | present found notBlank => exact ⟨some text, by rw [found], shownAddress_of_not_blank notBlank⟩
  · rintro ⟨found, read, rfl⟩
    split at read
    · rename_i null
      cases read
      exact .null null
    · split at read
      · rename_i absent
        cases read
        exact .missing absent
      · rename_i address there
        cases read
        cases blank : Text.blank address with
        | true => exact shownAddress_of_blank blank ▸ .blank there blank
        | false => exact (shownAddress_of_not_blank blank).symm ▸ .present there blank
      · cases read

/-- Exactly the entries with a row are read, and the symbol that is read has that row. -/
theorem rowOf_iff {v : Json} {row : SymbolRow} :
    RowOf v row ↔ ∃ s, symbolOf v = .ok s ∧ SymbolRow.ofSymbol s = row := by
  constructor
  · rintro ⟨named, ofKind, inScope, placed⟩
    obtain ⟨name, readName, rfl⟩ := textOf_iff.mp named
    obtain ⟨kind, readKind, rfl⟩ := textOf_iff.mp ofKind
    obtain ⟨scope, readScope, rfl⟩ := textOf_iff.mp inScope
    obtain ⟨address, readAddress, rfl⟩ := addressOf_iff.mp placed
    refine ⟨⟨name.getD "", kind.getD "", scope.getD "", address⟩, ?_, rfl⟩
    rw [symbolOf, readAddress, readName, readScope, readKind]
    rfl
  · rintro ⟨s, read, rfl⟩
    cases v with
    | object fields =>
      obtain ⟨address, readAddress, read⟩ := exists_of_bind_eq_ok read
      obtain ⟨name, readName, read⟩ := exists_of_bind_eq_ok read
      obtain ⟨scope, readScope, read⟩ := exists_of_bind_eq_ok read
      obtain ⟨kind, readKind, read⟩ := exists_of_bind_eq_ok read
      cases read
      exact .entry (textOf_iff.mpr ⟨name, readName, rfl⟩) (textOf_iff.mpr ⟨kind, readKind, rfl⟩)
        (textOf_iff.mpr ⟨scope, readScope, rfl⟩) (addressOf_iff.mpr ⟨address, readAddress, rfl⟩)
    | _ => cases read

theorem not_hasRow_of_symbolOf {v : Json} {fault : SymbolFault} (h : symbolOf v = .error fault) :
    ¬ HasRow v := by
  rintro ⟨row, hasRow⟩
  obtain ⟨s, read, -⟩ := rowOf_iff.mp hasRow
  rw [h] at read
  cases read

/-! ## Tables -/

/-- A table is read whole, or up to the first entry without a row. -/
theorem symbolsFrom_cases (index : Nat) (entries : List Json) :
    (∃ symbols, symbolsFrom index entries = .ok symbols ∧
      List.Forall₂ RowOf entries (symbols.map SymbolRow.ofSymbol)) ∨
    ∃ before v after fault, entries = before ++ v :: after ∧ (∀ w ∈ before, HasRow w) ∧ ¬ HasRow v ∧
      symbolsFrom index entries = .error (.badSymbol (index + before.length) fault) := by
  induction entries generalizing index with
  | nil => exact .inl ⟨[], rfl, .nil⟩
  | cons v entries ih =>
    cases first : symbolOf v with
    | error fault =>
      refine .inr ⟨[], v, entries, fault, rfl, nofun, not_hasRow_of_symbolOf first, ?_⟩
      rw [symbolsFrom, first]
      rfl
    | ok s =>
      have row : RowOf v (SymbolRow.ofSymbol s) := rowOf_iff.mpr ⟨s, first, rfl⟩
      obtain ⟨symbols, read, rows⟩ | ⟨before, w, after, fault, rfl, rows, noRow, read⟩ := ih (index + 1)
      · refine .inl ⟨s :: symbols, ?_, .cons row rows⟩
        rw [symbolsFrom, first, read]
        rfl
      · -- The rest is counted from one place further, so the fault names the same place of the whole.
        refine .inr ⟨v :: before, w, after, fault, rfl, ?_, noRow, ?_⟩
        · exact List.forall_mem_cons.mpr ⟨⟨_, row⟩, rows⟩
        · rw [symbolsFrom, first, read, List.length_cons, Nat.add_right_comm, Nat.add_assoc]
          rfl

theorem symbolTable_of_no_entries {table : Option Json}
    (h : ∀ entries, table = some (.array entries) → entries = []) : symbolTable table = .ok [] := by
  cases table with
  | none => rfl
  | some v =>
    cases v with
    | array entries =>
      rw [h entries rfl]
      rfl
    | _ => rfl

theorem forall_hasRow {entries : List Json} {rows : List SymbolRow} (h : List.Forall₂ RowOf entries rows) :
    ∀ v ∈ entries, HasRow v := by
  induction h with
  | nil => exact nofun
  | cons first _ ih => exact List.forall_mem_cons.mpr ⟨⟨_, first⟩, ih⟩

/-- A row of an entry that has an address to show. -/
def ShowsAddress (row : SymbolRow) : Prop :=
  ∃ name kind scope address, row = .entry name kind scope address ∧ Text.blank address = false

theorem forall_showsAddress {entries : List Json} {rows : List SymbolRow}
    (h : List.Forall₂ RowOf entries rows) : ∀ row ∈ rows, ShowsAddress row := by
  induction h with
  | nil => exact nofun
  | cons first _ ih =>
    cases first with
    | entry _ _ _ placed => exact List.forall_mem_cons.mpr ⟨⟨_, _, _, _, rfl, placed.not_blank⟩, ih⟩

/-- The places of the entries without a row. -/
def withoutRow (entries : List Json) : Set Nat := {index | ∃ v, entries[index]? = some v ∧ ¬ HasRow v}

theorem isLeast_withoutRow {before after : List Json} {v : Json} (rows : ∀ w ∈ before, HasRow w)
    (noRow : ¬ HasRow v) : IsLeast (withoutRow (before ++ v :: after)) before.length := by
  constructor
  · exact ⟨v, by simp, noRow⟩
  · rintro index ⟨w, there, without⟩
    by_contra earlier
    rw [List.getElem?_append_left (by omega)] at there
    exact without (rows w (List.mem_of_getElem? there))

theorem symbolTable_of_rows {entries : List Json} (rows : ∀ v ∈ entries, HasRow v) :
    ∃ symbols, symbolTable (some (.array entries)) = .ok symbols ∧
      List.Forall₂ RowOf entries (symbols.map SymbolRow.ofSymbol) := by
  rw [symbolTable]
  obtain read | ⟨before, v, after, fault, rfl, -, noRow, -⟩ := symbolsFrom_cases 0 entries
  · exact read
  · exact absurd (rows v (List.mem_append_right _ List.mem_cons_self)) noRow

theorem symbolTable_of_noRow {entries : List Json} (noRow : ∃ v ∈ entries, ¬ HasRow v) :
    ∃ index fault, symbolTable (some (.array entries)) = .error (.badSymbol index fault) ∧
      IsLeast (withoutRow entries) index := by
  rw [symbolTable]
  obtain ⟨symbols, -, rows⟩ | ⟨before, v, after, fault, rfl, rows, first, read⟩ :=
    symbolsFrom_cases 0 entries
  · obtain ⟨v, there, without⟩ := noRow
    exact absurd (forall_hasRow rows v there) without
  · rw [Nat.zero_add] at read
    exact ⟨before.length, fault, read, isLeast_withoutRow rows first⟩

end Verdict

/-! ## Panes -/

theorem Panes.present_symbols {σ : Type} (render : Renderer σ) (a : Artifacts) (p : Panes) (s : σ) :
    (p.present render a s).1.symbols = SymbolRow.ofSymbols a.symbols := by
  rw [present_eq]

theorem Panes.present_tab {σ : Type} (render : Renderer σ) (a : Artifacts) (p : Panes) (s : σ)
    (some : a.symbols ≠ []) : (p.present render a s).1.tab = .assembly := by
  rw [present_eq]
  simp [some]

theorem SymbolRow.ofSymbols_of_ne_nil {symbols : List Symbol} (some : symbols ≠ []) :
    ofSymbols symbols = symbols.map ofSymbol := by
  simp [ofSymbols, some]

namespace Session

variable {σ : Type}

/-- A request is outstanding from the time when its program was taken. Outcomes of other requests may come
in, and what is no part of the session and the three panes may change in any way. -/
inductive Outstanding (id : RequestId) : Bench σ → Prop
  | taken {s session : Session} {p panes : Panes} (x : σ)
    (accepted : s.submit? p id = some (session, panes)) : Outstanding id ⟨session, panes, x⟩
  | settled {b : Bench σ} (before : Outstanding id b) (presenter : Presenter σ) (endpoint : String)
    {other : RequestId} (differs : other ≠ id) (outcome : Outcome) :
    Outstanding id (settle presenter endpoint other outcome b).2
  | elsewhere {b : Bench σ} (before : Outstanding id b) (tab : Tab) (status : Option Status) (x : σ) :
    Outstanding id ⟨b.session, { b.panes with tab, status }, x⟩

theorem Outstanding.waits {id : RequestId} {b : Bench σ} (h : Outstanding id b) :
    b.session.inFlight = some id ∧ b.panes.SameContent {} := by
  induction h with
  | @taken s session p panes x accepted =>
    rw [submit?_eq] at accepted
    split at accepted
    · cases accepted
    · cases accepted
      exact ⟨rfl, rfl, rfl, rfl⟩
  | @settled b before presenter endpoint other differs outcome ih =>
    have stale : b.session.inFlight ≠ some other := by
      rw [ih.1]
      exact fun same => differs (Option.some.inj same).symm
    rwa [settle_of_ne presenter endpoint outcome stale]
  | elsewhere before tab status x ih => exact ⟨ih.1, ih.2.assembly, ih.2.diagram, ih.2.symbols⟩

section Settle

variable {id : RequestId} {b : Bench σ} {r : Reply}

theorem settle_of_fault (inFlight : b.session.inFlight = some id) (presenter : Presenter σ) (endpoint : String)
    {fault : ReplyFault} (unreadable : Verdict.ofReply r = .error fault) :
    (settle presenter endpoint id (.ok r) b).1 = .failed .malformed ∧
      (settle presenter endpoint id (.ok r) b).2.panes.SameContent b.panes := by
  rw [settle_of_eq presenter endpoint (.ok r) inFlight]
  simp only [judge, unreadable, true_and]
  exact ⟨rfl, rfl, rfl⟩

theorem settle_of_compiled (inFlight : b.session.inFlight = some id) (presenter : Presenter σ)
    (endpoint : String) {a : Artifacts} (compiled : Verdict.ofReply r = .ok (.compiled a)) :
    (settle presenter endpoint id (.ok r) b).1 = .succeeded ∧
      (settle presenter endpoint id (.ok r) b).2.panes.symbols = SymbolRow.ofSymbols a.symbols ∧
      (a.symbols ≠ [] → (settle presenter endpoint id (.ok r) b).2.panes.tab = .assembly) := by
  rw [settle_of_eq presenter endpoint (.ok r) inFlight,
    judge_of_compiled presenter endpoint _ ⟨r, rfl, compiled⟩]
  exact ⟨rfl, Panes.present_symbols presenter.render a b.panes b.surroundings,
    Panes.present_tab presenter.render a b.panes b.surroundings⟩

end Settle

/-- A successful reply with an object settles the request that is outstanding. Without a table, or with an empty
one, the pane of symbols holds the placeholder. A table whose entries all have rows is shown by these in their
order, none with a blank address, and the first tab is selected. If an entry has no row then the reply
counts as unreadable, the fault names the first such entry, and nothing of the others is shown. -/
theorem settle_symbolTable {id : RequestId} {b : Bench σ} (outstanding : Outstanding id b)
    (presenter : Presenter σ) (endpoint : String) {r : Reply} {fields : List (String × Json)}
    (other : r.status ≠ 401) (reads : Json.parse r.body = .ok (.object fields))
    (succeeds : Verdict.Succeeds r.status fields) :
    let done := settle presenter endpoint id (.ok r) b
    ((∀ entries, Json.field? fields "symbolTable" = some (.array entries) → entries = []) →
      done.1 = .succeeded ∧ done.2.panes.symbols = [.placeholder]) ∧
    ∀ entries, Json.field? fields "symbolTable" = some (.array entries) → entries ≠ [] →
      ((∀ v ∈ entries, Verdict.HasRow v) →
        done.1 = .succeeded ∧ List.Forall₂ Verdict.RowOf entries done.2.panes.symbols ∧
        (∀ row ∈ done.2.panes.symbols, Verdict.ShowsAddress row) ∧ done.2.panes.tab = .assembly) ∧
      ((∃ v ∈ entries, ¬ Verdict.HasRow v) →
        done.1 = .failed .malformed ∧
        (∃ index fault, Verdict.ofReply r = .error (.badSymbol index fault) ∧
          IsLeast (Verdict.withoutRow entries) index) ∧
        done.2.panes.SameContent {}) := by
  obtain ⟨inFlight, blank⟩ := outstanding.waits
  have verdict := Verdict.ofReply_of_succeeds other reads succeeds
  constructor
  · intro noEntries
    rw [Verdict.symbolTable_of_no_entries noEntries] at verdict
    obtain ⟨succeeded, shown, -⟩ := settle_of_compiled inFlight presenter endpoint verdict
    exact ⟨succeeded, shown⟩
  · intro entries table some
    rw [table] at verdict
    constructor
    · intro rows
      obtain ⟨symbols, read, rows⟩ := Verdict.symbolTable_of_rows rows
      rw [read] at verdict
      obtain ⟨succeeded, shown, selected⟩ := settle_of_compiled inFlight presenter endpoint verdict
      have someSymbols : symbols ≠ [] := by
        rintro rfl
        cases rows
        exact some rfl
      replace shown := shown.trans (SymbolRow.ofSymbols_of_ne_nil someSymbols)
      exact ⟨succeeded, shown ▸ rows, shown ▸ Verdict.forall_showsAddress rows, selected someSymbols⟩
    · intro noRow
      obtain ⟨index, fault, read, least⟩ := Verdict.symbolTable_of_noRow noRow
      rw [read] at verdict
      obtain ⟨malformed, kept⟩ := settle_of_fault inFlight presenter endpoint verdict
      refine ⟨malformed, ⟨index, fault, verdict, least⟩, ?_⟩
      -- The panes were cleared when the program was taken, so what is kept is nothing.
      exact ⟨kept.assembly.trans blank.assembly, kept.diagram.trans blank.diagram,
        kept.symbols.trans blank.symbols⟩

/-- A table whose second entry has null for its name. -/
def tornTable : List Json :=
  [.object [("name", .string "x"), ("address", .string " ")], .object [("type", .string "int"), ("name", .null)]]

def tornBody : String :=
  "\x7b\"symbolTable\":[\x7b\"name\":\"x\",\"address\":\" \"\x7d,\x7b\"type\":\"int\",\"name\":null\x7d]\x7d"

theorem tornTable_noRow : ¬ Verdict.HasRow (.object [("type", .string "int"), ("name", .null)]) := by
  have null : Json.field? [("type", .string "int"), ("name", .null)] "name" = some .null := rfl
  rintro ⟨row, hasRow⟩
  cases hasRow with
  | entry named =>
    cases named with
    | missing absent => simp [null] at absent
    | present found => simp [null] at found

/-- The bench after a program was taken under 3, an outcome came in for 9, and the symbols were selected. -/
def tornBench : Bench Unit :=
  ⟨Session.submitted ⟨2000, .idle, none, .ready⟩ ⟨3⟩, { tab := .symbols }, ()⟩

theorem outstanding_tornBench (presenter : Presenter Unit) : Outstanding ⟨3⟩ tornBench := by
  have taken : Outstanding ⟨3⟩ ⟨Session.submitted ⟨2000, .idle, none, .ready⟩ ⟨3⟩, {}, ()⟩ :=
    .taken () (rfl : Session.submit? ⟨2000, .idle, none, .ready⟩ {} ⟨3⟩ = some _)
  have differs : (⟨9⟩ : RequestId) ≠ ⟨3⟩ := by decide
  exact (taken.settled presenter "" differs (.ok ⟨401, ""⟩)).elsewhere .symbols none ()

def noRenderer : Presenter Unit where
  render := .ofFunction fun _ => .error (.unavailable "dot")
  clock _ := ⟨2000, 1, 2, 3, 4, 5, 678⟩

/-- Nothing of the first entry is shown. -/
theorem settle_tornTable :
    (settle noRenderer "" ⟨3⟩ (.ok ⟨200, tornBody⟩) tornBench).1 = .failed .malformed ∧
      Verdict.ofReply ⟨200, tornBody⟩ = .error (.badSymbol 1 (.notText "null")) ∧
      IsLeast (Verdict.withoutRow tornTable) 1 ∧
      (settle noRenderer "" ⟨3⟩ (.ok ⟨200, tornBody⟩) tornBench).2.panes.symbols = [] := by
  have other : (⟨200, tornBody⟩ : Reply).status ≠ 401 := by decide
  have reads : Json.parse tornBody = .ok (.object [("symbolTable", .array tornTable)]) := by cbv
  have unflagged : Verdict.Unflagged [("symbolTable", .array tornTable)] := by
    have absent : Json.field? [("symbolTable", .array tornTable)] "success" = none := rfl
    intro flag
    simp [absent]
  have succeeds : Verdict.Succeeds 200 [("symbolTable", .array tornTable)] :=
    .unflagged unflagged ⟨by decide, by decide⟩
  have table : Json.field? [("symbolTable", .array tornTable)] "symbolTable" = some (.array tornTable) := rfl
  have settled := settle_symbolTable (outstanding_tornBench noRenderer) noRenderer "" other reads succeeds
  have torn := (settled.2 tornTable table (by simp [tornTable])).2
  obtain ⟨malformed, ⟨index, fault, verdict, least⟩, blank⟩ := torn ⟨_, by simp [tornTable], tornTable_noRow⟩
  have read : Verdict.symbolTable (some (.array tornTable)) = .error (.badSymbol 1 (.notText "null")) := rfl
  have computed : Verdict.ofReply ⟨200, tornBody⟩ = .error (.badSymbol 1 (.notText "null")) := by
    rw [Verdict.ofReply_of_succeeds other reads succeeds, table, read]
    rfl
  rw [computed] at verdict
  cases verdict
  exact ⟨malformed, computed, least, blank.symbols⟩

end Session
end CompileDesk
