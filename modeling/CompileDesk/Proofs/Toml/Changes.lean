import CompileDesk.Proofs.Toml.Tables

/-! # Changes of tables under construction

A header or a binding changes the table at the end of a path and nothing else. Two changes at the
end of one path are one change there, and a change at the end of a longer path is one inside the table
that the shorter path leads to. A path therefore leads to one table, and goes on leading to it when the
table has changed.
-/

namespace CompileDesk.Toml

variable {f g : Nodes → Option Nodes} {path : List String} {key : String} {root inner : Nodes}

/-! ## Nodes under keys -/

theorem lookup_append_self {α : Type} {entries : List (String × α)} (free : key ∉ entries.map (·.1))
    (a : α) : (entries ++ [(key, a)]).lookup key = some a := by
  rw [List.lookup_append, lookup_eq_none_of_notMem free]
  simp

theorem setNode_of_notMem {entries : Nodes} (free : key ∉ entries.map (·.1)) (node : Node) :
    setNode key node entries = entries ++ [(key, node)] := by
  induction entries with
  | nil => rfl
  | cons e entries ih =>
    obtain ⟨k, n⟩ := e
    simp only [List.map_cons, List.mem_cons, not_or] at free
    rw [setNode, if_neg (Ne.symm free.1), ih free.2]
    rfl

theorem setNode_append_self {entries : Nodes} (free : key ∉ entries.map (·.1)) (old node : Node) :
    setNode key node (entries ++ [(key, old)]) = entries ++ [(key, node)] := by
  induction entries with
  | nil => simp [setNode]
  | cons e entries ih =>
    obtain ⟨k, n⟩ := e
    simp only [List.map_cons, List.mem_cons, not_or] at free
    rw [List.cons_append, setNode, if_neg (Ne.symm free.1), ih free.2]
    rfl

theorem lookup_setNode_self (key : String) (node : Node) (entries : Nodes) :
    (setNode key node entries).lookup key = some node := by
  induction entries with
  | nil => simp [setNode]
  | cons e entries ih =>
    obtain ⟨k, n⟩ := e
    rw [setNode]
    split
    · simp
    · rename_i other
      simp [List.lookup_cons, beq_eq_false_iff_ne.mpr (Ne.symm other), ih]

theorem setNode_setNode (key : String) (old node : Node) (entries : Nodes) :
    setNode key node (setNode key old entries) = setNode key node entries := by
  induction entries with
  | nil => simp [setNode]
  | cons e entries ih =>
    obtain ⟨k, n⟩ := e
    by_cases same : k = key
    · simp [setNode, same]
    · simp [setNode, same, ih]

theorem changeLast_append (done : List Nodes) (last : Nodes) :
    changeLast f (done ++ [last]) = (f last).map fun n => done ++ [n] := by
  induction done with
  | nil => rfl
  | cons first done ih =>
    have more : done ++ [last] ≠ [] := by simp
    obtain ⟨next, others, eq⟩ := List.exists_cons_of_ne_nil more
    rw [List.cons_append, eq, changeLast, ← eq, ih]
    · cases f last <;> rfl
    · nofun

theorem changeLast_bind (elements : List Nodes) :
    (changeLast f elements).bind (changeLast g) = changeLast (fun n => (f n).bind g) elements := by
  obtain rfl | ⟨done, last, rfl⟩ := List.eq_nil_or_concat elements
  · rfl
  · rw [List.concat_eq_append, changeLast_append, changeLast_append]
    cases f last with
    | none => rfl
    | some n => rw [Option.map_some, Option.bind_some, changeLast_append, Option.bind_some]

/-! ## Changes at the end of a path -/

/-- A change of entries leaves open how their table came about. -/
theorem changeAt_steady (path : List String) (origin : Origin) (entries : Nodes) :
    changeAt .implicit (fun origin inner => (f inner).map fun inner => (origin, inner)) path origin
      entries = (changeOpened path f entries).map (origin, ·) := by
  cases path with
  | nil => simp [changeAt, changeOpened, Function.comp_def]
  | cons key path =>
    rw [changeOpened, changeAt, changeAt]
    split <;> simp [Function.comp_def]

@[simp] theorem changeOpened_nil (entries : Nodes) : changeOpened [] f entries = f entries := by
  simp [changeOpened, changeAt, Function.comp_def]

theorem changeOpened_cons (key : String) (path : List String) (entries : Nodes) :
    changeOpened (key :: path) f entries =
      match entries.lookup key with
      | none => (changeOpened path f []).map fun n => setNode key (.table .implicit n) entries
      | some (.value _) => none
      | some (.table o n) => (changeOpened path f n).map fun n => setNode key (.table o n) entries
      | some (.tables elements) =>
        (changeLast (changeOpened path f) elements).map fun elements =>
          setNode key (.tables elements) entries := by
  rw [changeOpened, changeAt]
  cases entries.lookup key with
  | none => simp [changeAt_steady, Function.comp_def]
  | some node => cases node <;> simp [changeAt_steady, Function.comp_def]

theorem changeOpened_append (path path' : List String) (entries : Nodes) :
    changeOpened (path ++ path') f entries = changeOpened path (changeOpened path' f) entries := by
  induction path generalizing entries with
  | nil => simp
  | cons key path ih =>
    have inner : changeOpened (path ++ path') f = changeOpened path (changeOpened path' f) := funext ih
    rw [List.cons_append, changeOpened_cons, changeOpened_cons, inner]

/-- Two changes at the end of one path are one change there. -/
theorem changeOpened_bind (path : List String) (entries : Nodes) :
    (changeOpened path f entries).bind (changeOpened path g) =
      changeOpened path (fun n => (f n).bind g) entries := by
  induction path generalizing entries with
  | nil =>
    have here : changeOpened [] g = g := funext changeOpened_nil
    rw [changeOpened_nil, changeOpened_nil, here]
  | cons key path ih =>
    rw [changeOpened_cons key path entries, changeOpened_cons key path entries]
    split
    · rw [← ih]
      cases changeOpened path f [] with
      | none => rfl
      | some n =>
        rw [Option.map_some, Option.bind_some, Option.bind_some, changeOpened_cons]
        simp [lookup_setNode_self, setNode_setNode]
    · rfl
    · rename_i o n _
      rw [← ih]
      cases changeOpened path f n with
      | none => rfl
      | some n =>
        rw [Option.map_some, Option.bind_some, Option.bind_some, changeOpened_cons]
        simp [lookup_setNode_self, setNode_setNode]
    · rename_i elements _
      rw [← funext ih, ← changeLast_bind]
      cases changeLast (changeOpened path f) elements with
      | none => rfl
      | some n =>
        rw [Option.map_some, Option.bind_some, Option.bind_some, changeOpened_cons]
        simp [lookup_setNode_self, setNode_setNode]

theorem openTable?_eq (path : List String) (key : String) (entries : Nodes) :
    openTable? path key entries = changeOpened path (openTable? [] key) entries := by
  rw [openTable?, changeOpened]
  congr 2
  funext origin inner
  simp only [openTable?, changeAt]
  split <;> rfl

theorem openElement?_eq (path : List String) (key : String) (entries : Nodes) :
    openElement? path key entries = changeOpened path (openElement? [] key) entries := by
  rw [openElement?, changeOpened]
  congr 2
  funext origin inner
  simp only [openElement?, changeAt]
  split <;> rfl

/-! ## Where a path leads -/

/-- A path leads to a table, which may still be missing: any change at its end is one of this table, and
the changed table is put in its place. -/
def Leads (path : List String) (root inner : Nodes) (put : Nodes → Nodes) : Prop :=
  ∀ f : Nodes → Option Nodes, changeOpened path f root = (f inner).map put

section Leads

variable {put : Nodes → Nodes}

theorem leads_root (root : Nodes) : Leads [] root root id := fun f => by simp

/-- A path goes on leading to a table that has changed. -/
theorem Leads.after (h : Leads path root inner put) (changed : Nodes) :
    Leads path (put changed) changed put := by
  intro f
  have made := h fun _ => some changed
  have both := changeOpened_bind (f := fun _ => some changed) (g := f) path root
  rw [made, h] at both
  exact both

theorem Leads.to_missing (h : Leads path root inner put) (free : key ∉ inner.map (·.1)) :
    Leads (path ++ [key]) root [] fun n => put (inner ++ [(key, .table .implicit n)]) := by
  intro f
  rw [changeOpened_append, h, changeOpened_cons, lookup_eq_none_of_notMem free]
  simp [Function.comp_def, setNode_of_notMem free]

theorem Leads.to_table {origin : Origin} {n : Nodes}
    (h : Leads path root (inner ++ [(key, .table origin n)]) put) (free : key ∉ inner.map (·.1)) :
    Leads (path ++ [key]) root n fun n => put (inner ++ [(key, .table origin n)]) := by
  intro f
  rw [changeOpened_append, h, changeOpened_cons, lookup_append_self free]
  simp [Function.comp_def, setNode_append_self free]

theorem Leads.to_element {done : List Nodes} {n : Nodes}
    (h : Leads path root (inner ++ [(key, .tables (done ++ [n]))]) put)
    (free : key ∉ inner.map (·.1)) :
    Leads (path ++ [key]) root n fun n => put (inner ++ [(key, .tables (done ++ [n]))]) := by
  intro f
  rw [changeOpened_append, h, changeOpened_cons, lookup_append_self free]
  simp [Function.comp_def, setNode_append_self free, changeLast_append]

end Leads

end CompileDesk.Toml
