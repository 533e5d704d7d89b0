import CompileDesk.Proofs.Results
import CompileDesk.Proofs.Toml.Tables

/-! # What is read is in order

Whatever a document says, its tables are finished by binding keys one after the other. The values that
are bound while the document is being built are in order, and every statement keeps them so.
-/

namespace CompileDesk.Toml

theorem nodesInOrder_iff {nodes : Nodes} : NodesInOrder nodes ↔ ∀ e ∈ nodes, e.2.InOrder := by
  induction nodes with
  | nil => simp [NodesInOrder]
  | cons e nodes ih => simp [NodesInOrder, ih]

theorem nodesInOrder_nil : NodesInOrder [] := trivial

theorem elementsInOrder_iff {elements : List Nodes} :
    ElementsInOrder elements ↔ ∀ nodes ∈ elements, NodesInOrder nodes := by
  induction elements with
  | nil => simp [ElementsInOrder]
  | cons nodes elements ih => simp [ElementsInOrder, ih]

theorem NodesInOrder.append {nodes : Nodes} {key : String} {node : Node} (h : NodesInOrder nodes)
    (order : node.InOrder) : NodesInOrder (nodes ++ [(key, node)]) := by
  rw [nodesInOrder_iff] at h ⊢
  exact List.forall_mem_append.mpr ⟨h, List.forall_mem_singleton.mpr order⟩

theorem NodesInOrder.setNode {nodes : Nodes} {key : String} {node : Node} (h : NodesInOrder nodes)
    (order : node.InOrder) : NodesInOrder (setNode key node nodes) := by
  induction nodes with
  | nil => exact ⟨order, trivial⟩
  | cons e nodes ih =>
    obtain ⟨first, others⟩ := h
    rw [Toml.setNode]
    split
    · exact ⟨order, others⟩
    · exact ⟨first, ih others⟩

theorem NodesInOrder.lookup {nodes : Nodes} {key : String} {node : Node} (h : NodesInOrder nodes)
    (found : nodes.lookup key = some node) : node.InOrder := by
  obtain ⟨before, after, rfl, _⟩ := List.lookup_eq_some_iff.mp found
  exact nodesInOrder_iff.mp h (key, node) (by simp)

/-! ## Changes keep the order -/

/-- A change that keeps values in order. -/
def KeepsOrder (change : Origin → Nodes → Option (Origin × Nodes)) : Prop :=
  ∀ {origin inner origin' inner'}, NodesInOrder inner → change origin inner = some (origin', inner') →
    NodesInOrder inner'

theorem changeLast_inOrder {f : Nodes → Option Nodes} {elements changed : List Nodes}
    (keeps : ∀ {n n'}, NodesInOrder n → f n = some n' → NodesInOrder n')
    (h : ElementsInOrder elements) (made : changeLast f elements = some changed) :
    ElementsInOrder changed := by
  induction elements generalizing changed with
  | nil => cases made
  | cons first others ih =>
    obtain ⟨order, orders⟩ := h
    cases others with
    | nil =>
      obtain ⟨n, last, rfl⟩ := Option.map_eq_some_iff.mp made
      exact ⟨keeps order last, trivial⟩
    | cons next others =>
      obtain ⟨n, later, rfl⟩ := Option.map_eq_some_iff.mp made
      exact ⟨order, ih orders later⟩

theorem KeepsOrder.changeAt {made : Origin} {change : Origin → Nodes → Option (Origin × Nodes)}
    (keeps : KeepsOrder change) (path : List String) : KeepsOrder (changeAt made change path) := by
  induction path with
  | nil => exact keeps
  | cons key path ih =>
    intro origin inner origin' inner' h changed
    rw [Toml.changeAt] at changed
    split at changed
    · obtain ⟨⟨o, n⟩, made', same⟩ := Option.map_eq_some_iff.mp changed
      cases same
      exact h.setNode (ih nodesInOrder_nil made')
    · cases changed
    · rename_i found
      split at changed
      · cases changed
      · obtain ⟨⟨o, n⟩, made', same⟩ := Option.map_eq_some_iff.mp changed
        cases same
        exact h.setNode (ih (h.lookup found) made')
    · rename_i found
      obtain ⟨elements, made', same⟩ := Option.map_eq_some_iff.mp changed
      cases same
      refine h.setNode (changeLast_inOrder (fun order made => ?_) (h.lookup found) made')
      obtain ⟨⟨o, n⟩, inside, rfl⟩ := Option.map_eq_some_iff.mp made
      exact ih order inside

theorem bind?_inOrder {path : List String} {key : String} {v : Toml} {entries changed : Nodes}
    (order : InOrder v) (h : NodesInOrder entries) (made : bind? path key v entries = some changed) :
    NodesInOrder changed := by
  obtain ⟨⟨o, n⟩, reached, rfl⟩ := Option.map_eq_some_iff.mp made
  refine KeepsOrder.changeAt (fun h changed => ?_) path h reached
  split at changed
  · cases changed
  · cases changed
    exact h.append order

theorem openTable?_inOrder {path : List String} {key : String} {entries changed : Nodes}
    (h : NodesInOrder entries) (made : openTable? path key entries = some changed) :
    NodesInOrder changed := by
  obtain ⟨⟨o, n⟩, reached, rfl⟩ := Option.map_eq_some_iff.mp made
  refine KeepsOrder.changeAt (fun h changed => ?_) path h reached
  split at changed
  · cases changed
    have order : (Node.table .header []).InOrder := nodesInOrder_nil
    exact h.append order
  · rename_i content found
    cases changed
    have order : (Node.table .implicit content).InOrder := h.lookup found
    have opened : (Node.table .header content).InOrder := order
    exact h.setNode opened
  · cases changed

theorem openElement?_inOrder {path : List String} {key : String} {entries changed : Nodes}
    (h : NodesInOrder entries) (made : openElement? path key entries = some changed) :
    NodesInOrder changed := by
  obtain ⟨⟨o, n⟩, reached, rfl⟩ := Option.map_eq_some_iff.mp made
  refine KeepsOrder.changeAt (fun h changed => ?_) path h reached
  split at changed
  · cases changed
    have order : (Node.tables [[]]).InOrder := ⟨trivial, trivial⟩
    exact h.append order
  · rename_i elements found
    cases changed
    suffices order : (Node.tables (elements ++ [[]])).InOrder from h.setNode order
    refine elementsInOrder_iff.mpr fun n there => ?_
    obtain there | there := List.mem_append.mp there
    · exact elementsInOrder_iff.mp (h.lookup found) n there
    · obtain rfl := List.mem_singleton.mp there
      trivial
  · cases changed

theorem changeOpened_inOrder {path : List String} {f : Nodes → Option Nodes} {entries changed : Nodes}
    (keeps : ∀ {n n'}, NodesInOrder n → f n = some n' → NodesInOrder n') (h : NodesInOrder entries)
    (made : changeOpened path f entries = some changed) : NodesInOrder changed := by
  obtain ⟨⟨o, n⟩, reached, rfl⟩ := Option.map_eq_some_iff.mp made
  refine KeepsOrder.changeAt (fun h changed => ?_) path h reached
  obtain ⟨n, made, same⟩ := Option.map_eq_some_iff.mp changed
  cases same
  exact keeps h made

/-! ## Values and statements -/

theorem based?_inOrder {base : Nat} {s : List Char} {v : Toml} (read : based? base s = some v) :
    InOrder v := by
  obtain ⟨digits, _, rfl⟩ := Option.map_eq_some_iff.mp read
  trivial

theorem realOf?_inOrder {negative : Bool} {digits : List Char} {exponent : Int} {v : Toml}
    (read : realOf? negative digits exponent = some v) : InOrder v := by
  obtain ⟨x, _, rfl⟩ := Option.map_eq_some_iff.mp read
  trivial

theorem afterPlaces?_inOrder {negative : Bool} {digits s : List Char} {places : Nat} {v : Toml}
    (read : afterPlaces? negative digits places s = some v) : InOrder v := by
  unfold afterPlaces? at read
  split at read
  · exact realOf?_inOrder read
  · split at read
    · obtain ⟨e, _, read⟩ := Option.bind_eq_some_iff.mp read
      exact realOf?_inOrder read
    · cases read

theorem decimalNumber?_inOrder {negative : Bool} {s : List Char} {v : Toml}
    (read : decimalNumber? negative s = some v) : InOrder v := by
  obtain ⟨whole, _, read⟩ := Option.bind_eq_some_iff.mp read
  split at read
  · cases read
    trivial
  · obtain ⟨places, _, read⟩ := Option.bind_eq_some_iff.mp read
    exact afterPlaces?_inOrder read
  · exact afterPlaces?_inOrder read

theorem signedNumber?_inOrder {s : List Char} {v : Toml} (read : signedNumber? s = some v) :
    InOrder v := by
  have unsigned : ∀ (negative : Bool) (body : List Char),
      (if body == "inf".toList then some (.real (.infinity negative))
        else if body == "nan".toList then some (.real .nan)
        else decimalNumber? negative body) = some v → InOrder v := by
    intro negative body read
    split at read
    · cases read
      trivial
    · split at read
      · cases read
        trivial
      · exact decimalNumber?_inOrder read
  unfold signedNumber? at read
  split at read
  exact unsigned _ _ read

/-- A value without quotes holds no tables. -/
theorem scalar?_inOrder {s : List Char} {v : Toml} (read : scalar? s = some v) : InOrder v := by
  unfold scalar? at read
  split at read
  · cases read
    trivial
  · split at read
    · cases read
      trivial
    · split at read
      · cases read
        trivial
      · exact based?_inOrder read
      · exact based?_inOrder read
      · exact based?_inOrder read
      · exact signedNumber?_inOrder read

theorem wellFormed_eq_ok {α : Type} {o : Option α} {a : α} (h : wellFormed o = .ok a) : o = some a := by
  cases o with
  | none => cases h
  | some b => cases h; rfl

theorem along_eq_ok {α : Type} {path : List String} {o : Option α} {a : α} (h : along path o = .ok a) :
    o = some a := by
  unfold along at h
  split at h
  · cases h
  · exact wellFormed_eq_ok h

mutual

theorem form_value_inOrder : {form : Form} → {v : Toml} → form.value = .ok v → InOrder v
  | .plain (.bare text), v, read => by
    rw [Form.value] at read
    exact scalar?_inOrder (wellFormed_eq_ok read)
  | .plain (.quoted style text), v, read => by
    rw [Form.value] at read
    obtain ⟨content, _, rfl⟩ := Option.map_eq_some_iff.mp (wellFormed_eq_ok read)
    trivial
  | .array items, v, read => by
    rw [Form.value] at read
    obtain ⟨vs, values, rfl⟩ := exists_of_map_eq_ok read
    exact itemValues_inOrder values
  | .table entries, v, read => by
    rw [Form.value] at read
    obtain ⟨nodes, values, rfl⟩ := exists_of_map_eq_ok read
    have order := entryValues_inOrder nodesInOrder_nil values
    exact ⟨increasing_finishEntries nodes .nil, order.finishEntries trivial⟩

theorem itemValues_inOrder : {forms : List Form} → {vs : List Toml} → itemValues forms = .ok vs →
    AllInOrder vs
  | [], vs, read => by
    cases read
    trivial
  | form :: forms, vs, read => by
    obtain ⟨v, first, read⟩ := exists_of_bind_eq_ok read
    obtain ⟨vs, others, rfl⟩ := exists_of_map_eq_ok read
    exact ⟨form_value_inOrder first, itemValues_inOrder others⟩

theorem entryValues_inOrder : {entries : List (Key × Form)} → {nodes built : Nodes} →
    NodesInOrder nodes → entryValues entries nodes = .ok built → NodesInOrder built
  | [], nodes, built, h, read => by
    cases read
    exact h
  | (key, form) :: entries, nodes, built, h, read => by
    obtain ⟨⟨path, last⟩, _, read⟩ := exists_of_bind_eq_ok read
    obtain ⟨v, value, read⟩ := exists_of_bind_eq_ok read
    obtain ⟨bound, bind, read⟩ := exists_of_bind_eq_ok read
    have order := bind?_inOrder (form_value_inOrder value) h (along_eq_ok bind)
    exact entryValues_inOrder order read

end

theorem Draft.add_inOrder {d d' : Draft} {statement : Statement} (h : NodesInOrder d.root)
    (added : d.add statement = .ok d') : NodesInOrder d'.root := by
  cases statement with
  | binding key form =>
    obtain ⟨⟨path, last⟩, _, added⟩ := exists_of_bind_eq_ok added
    obtain ⟨v, value, added⟩ := exists_of_bind_eq_ok added
    obtain ⟨root, made, rfl⟩ := exists_of_map_eq_ok added
    exact changeOpened_inOrder (bind?_inOrder (form_value_inOrder value)) h (along_eq_ok made)
  | header key =>
    obtain ⟨⟨path, last⟩, _, added⟩ := exists_of_bind_eq_ok added
    obtain ⟨root, made, rfl⟩ := exists_of_map_eq_ok added
    exact openTable?_inOrder h (along_eq_ok made)
  | element key =>
    obtain ⟨⟨path, last⟩, _, added⟩ := exists_of_bind_eq_ok added
    obtain ⟨root, made, rfl⟩ := exists_of_map_eq_ok added
    exact openElement?_inOrder h (along_eq_ok made)

theorem foldlM_add_inOrder {statements : List Statement} {d d' : Draft} (h : NodesInOrder d.root)
    (built : statements.foldlM Draft.add d = .ok d') : NodesInOrder d'.root := by
  induction statements generalizing d with
  | nil =>
    cases built
    exact h
  | cons statement statements ih =>
    obtain ⟨next, added, built⟩ := exists_of_bind_eq_ok built
    exact ih (Draft.add_inOrder h added) built

/-- Every table that is read is in order. -/
theorem parse_inOrder {text : String} {t : Table} (read : parse text = .ok t) : InOrder (.table t) := by
  obtain ⟨statements, _, read⟩ := exists_of_bind_eq_ok read
  obtain ⟨d, built, rfl⟩ := exists_of_map_eq_ok read
  have order := foldlM_add_inOrder (d := {}) nodesInOrder_nil built
  exact ⟨increasing_finishEntries d.root .nil, order.finishEntries trivial⟩

end CompileDesk.Toml
