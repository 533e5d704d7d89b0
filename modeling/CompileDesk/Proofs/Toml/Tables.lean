import CompileDesk.Toml.Meaning

/-! # Tables in order

A table is in order when its keys increase, and a value when all tables in it are. Binding a key keeps
the order, so that the table built from bindings depends on the bindings only, not on the order
in which they come.
-/

namespace CompileDesk.Toml

variable {key other : String} {v : Toml} {t : Table}

/-- Entries whose keys increase. -/
def Increasing (t : Table) : Prop := t.Pairwise (·.1 < ·.1)

mutual

/-- Whether all tables in a value are in order. -/
def InOrder : Toml → Prop
  | .array items => AllInOrder items
  | .table entries => Increasing entries ∧ EntriesInOrder entries
  | _ => True

def AllInOrder : List Toml → Prop
  | [] => True
  | v :: rest => InOrder v ∧ AllInOrder rest

def EntriesInOrder : List (String × Toml) → Prop
  | [] => True
  | (_, v) :: rest => InOrder v ∧ EntriesInOrder rest

end

theorem entriesInOrder_iff : EntriesInOrder t ↔ ∀ e ∈ t, InOrder e.2 := by
  induction t with
  | nil => simp [EntriesInOrder]
  | cons e t ih => simp [EntriesInOrder, ih]

theorem allIntegersOf_iff {p : Int → Bool} : allIntegersOf p t ↔ ∀ e ∈ t, allIntegers p e.2 := by
  induction t with
  | nil => simp [allIntegersOf]
  | cons e t ih => simp [allIntegersOf, ih]

/-! ## Binding a key -/

theorem lookup_eq_none_of_notMem {α : Type} {entries : List (String × α)}
    (free : key ∉ entries.map (·.1)) : entries.lookup key = none := by
  rw [List.lookup_eq_none_iff]
  exact fun e there => bne_iff_ne.mpr fun same => free (same ▸ List.mem_map_of_mem there)

theorem mem_insert {e : String × Toml} (h : e ∈ insert key v t) : e = (key, v) ∨ e ∈ t := by
  induction t with
  | nil => simpa [insert] using h
  | cons first rest ih =>
    obtain ⟨k, w⟩ := first
    rw [insert] at h
    split at h
    · exact (List.mem_cons.mp h).imp_right (List.mem_cons_of_mem _)
    · split at h
      · exact List.mem_cons.mp h
      · obtain rfl | h := List.mem_cons.mp h
        · exact .inr List.mem_cons_self
        · exact (ih h).imp_right (List.mem_cons_of_mem _)

theorem Increasing.insert (h : Increasing t) (key : String) (v : Toml) :
    Increasing (Toml.insert key v t) := by
  induction t with
  | nil => exact List.pairwise_singleton ..
  | cons first rest ih =>
    obtain ⟨k, w⟩ := first
    obtain ⟨above, others⟩ := List.pairwise_cons.mp h
    rw [Toml.insert]
    split
    · rename_i same
      exact List.pairwise_cons.mpr ⟨same ▸ above, others⟩
    · rename_i different
      split
      · rename_i below
        refine List.pairwise_cons.mpr ⟨fun e there => ?_, h⟩
        obtain rfl | there := List.mem_cons.mp there
        · exact below
        · exact String.lt_trans below (above e there)
      · rename_i notBelow
        refine List.pairwise_cons.mpr ⟨fun e there => ?_, ih others⟩
        obtain rfl | there := mem_insert there
        · exact String.not_le.mp fun h => different (String.le_antisymm h (String.not_lt.mp notBelow))
        · exact above e there

theorem EntriesInOrder.insert (h : EntriesInOrder t) (value : InOrder v) (key : String) :
    EntriesInOrder (Toml.insert key v t) := by
  rw [entriesInOrder_iff] at h ⊢
  intro e there
  obtain rfl | there := mem_insert there
  · exact value
  · exact h e there

theorem lookup_insert_of_ne (different : other ≠ key) (v : Toml) (t : Table) :
    (insert key v t).lookup other = t.lookup other := by
  induction t with
  | nil => simp [insert, List.lookup_cons, beq_eq_false_iff_ne.mpr different]
  | cons first rest ih =>
    obtain ⟨k, w⟩ := first
    rw [insert]
    split
    · rename_i same
      simp [List.lookup_cons, ← same, beq_eq_false_iff_ne.mpr different]
    · split
      · simp [List.lookup_cons, beq_eq_false_iff_ne.mpr different]
      · simp [List.lookup_cons, ih]

/-- A key that is not bound is added to the entries. -/
theorem insert_perm (free : key ∉ t.map (·.1)) : (insert key v t).Perm ((key, v) :: t) := by
  induction t with
  | nil => exact .refl _
  | cons first rest ih =>
    obtain ⟨k, w⟩ := first
    simp only [List.map_cons, List.mem_cons, not_or] at free
    rw [insert, if_neg free.1]
    split
    · exact .refl _
    · exact ((ih free.2).cons (k, w)).trans (.swap ..)

/-- A table in order is determined by its entries. -/
theorem Increasing.eq_of_perm {t' : Table} (h : Increasing t) (h' : Increasing t') (perm : t.Perm t') :
    t = t' :=
  perm.eq_of_pairwise (fun _ _ _ _ below above => absurd below (String.lt_asymm above)) h h'

theorem Increasing.distinct (h : Increasing t) : t.Pairwise (·.1 ≠ ·.1) :=
  h.imp String.ne_of_lt

/-! ## Finishing tables -/

/-- The entries of a table under construction with their finished values. -/
def finished (nodes : Nodes) : Table := nodes.map fun e => (e.1, e.2.finish)

theorem increasing_finishEntries (nodes : Nodes) (h : Increasing t) :
    Increasing (finishEntries nodes t) := by
  induction nodes generalizing t with
  | nil => rwa [finishEntries]
  | cons e nodes ih =>
    rw [finishEntries]
    exact ih (h.insert ..)

theorem finishEntries_perm {nodes : Nodes} (distinct : (finished nodes ++ t).Pairwise (·.1 ≠ ·.1)) :
    (finishEntries nodes t).Perm (finished nodes ++ t) := by
  induction nodes generalizing t with
  | nil =>
    rw [finishEntries]
    exact .refl _
  | cons e nodes ih =>
    obtain ⟨key, node⟩ := e
    rw [finished, List.map_cons, List.cons_append, ← finished] at distinct ⊢
    obtain ⟨free, others⟩ := List.pairwise_cons.mp distinct
    have added : (insert key node.finish t).Perm ((key, node.finish) :: t) := by
      refine insert_perm fun there => ?_
      obtain ⟨e, there, same⟩ := List.mem_map.mp there
      exact free e (List.mem_append_right _ there) same.symm
    have moved : (finished nodes ++ insert key node.finish t).Perm
        ((key, node.finish) :: (finished nodes ++ t)) :=
      (added.append_left _).trans List.perm_middle
    rw [finishEntries]
    exact (ih ((moved.pairwise_iff Ne.symm).mpr distinct)).trans moved

/-- A table in order is built from its entries, whatever order they come in. -/
theorem finishEntries_eq {nodes : Nodes} (h : Increasing t) (perm : (finished nodes).Perm t) :
    finishEntries nodes [] = t := by
  have perm : (finished nodes ++ []).Perm t := by rwa [List.append_nil]
  have built := finishEntries_perm ((perm.pairwise_iff Ne.symm).mpr h.distinct)
  exact (increasing_finishEntries nodes .nil).eq_of_perm h (built.trans perm)

theorem mem_finishEntries {nodes : Nodes} {e : String × Toml} (there : e ∈ finishEntries nodes t) :
    e ∈ finished nodes ∨ e ∈ t := by
  induction nodes generalizing t with
  | nil => exact .inr (by rwa [finishEntries] at there)
  | cons first nodes ih =>
    rw [finishEntries] at there
    obtain inside | before := ih there
    · exact .inl (List.mem_cons_of_mem _ inside)
    · obtain rfl | before := mem_insert before
      · exact .inl List.mem_cons_self
      · exact .inr before

/-- In a finished table a key has the value that it was given. -/
theorem lookup_finishEntries {nodes : Nodes} (distinct : (finished nodes).Pairwise (·.1 ≠ ·.1))
    (key : String) (t : Table) :
    (finishEntries nodes t).lookup key = ((finished nodes).lookup key).or (t.lookup key) := by
  induction nodes generalizing t with
  | nil =>
    rw [finishEntries]
    rfl
  | cons e nodes ih =>
    obtain ⟨k, node⟩ := e
    rw [finished, List.map_cons, ← finished] at distinct ⊢
    obtain ⟨apart, distinct⟩ := List.pairwise_cons.mp distinct
    rw [finishEntries, ih distinct, List.lookup_cons]
    by_cases same : key = k
    · subst same
      have free : (finished nodes).lookup key = none := by
        rw [List.lookup_eq_none_iff]
        exact fun e there => bne_iff_ne.mpr (apart e there)
      simp [free]
    · rw [lookup_insert_of_ne same, beq_eq_false_iff_ne.mpr same]

mutual

/-- Whether all values that a node holds are in order. -/
def Node.InOrder : Node → Prop
  | .value v => Toml.InOrder v
  | .table _ entries => NodesInOrder entries
  | .tables elements => ElementsInOrder elements

def NodesInOrder : List (String × Node) → Prop
  | [] => True
  | (_, node) :: rest => node.InOrder ∧ NodesInOrder rest

def ElementsInOrder : List (List (String × Node)) → Prop
  | [] => True
  | entries :: rest => NodesInOrder entries ∧ ElementsInOrder rest

end

mutual

theorem Node.InOrder.finish : {node : Node} → node.InOrder → Toml.InOrder node.finish
  | .value _, h => h
  | .table _ entries, h => by
    rw [Node.finish]
    exact ⟨increasing_finishEntries entries .nil, NodesInOrder.finishEntries h trivial⟩
  | .tables elements, h => by
    rw [Node.finish]
    exact ElementsInOrder.finishElements h

theorem NodesInOrder.finishEntries : {nodes : List (String × Node)} → NodesInOrder nodes →
    {t : Table} → EntriesInOrder t → EntriesInOrder (Toml.finishEntries nodes t)
  | [], _, t, done => by rwa [Toml.finishEntries]
  | (key, node) :: rest, h, t, done => by
    rw [Toml.finishEntries]
    exact NodesInOrder.finishEntries h.2 (done.insert (Node.InOrder.finish h.1) key)

theorem ElementsInOrder.finishElements : {elements : List (List (String × Node))} →
    ElementsInOrder elements → AllInOrder (Toml.finishElements elements)
  | [], _ => trivial
  | entries :: rest, h => by
    rw [Toml.finishElements]
    exact ⟨⟨increasing_finishEntries entries .nil, NodesInOrder.finishEntries h.1 trivial⟩,
      ElementsInOrder.finishElements h.2⟩

end

end CompileDesk.Toml
