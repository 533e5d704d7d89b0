import CompileDesk.Proofs.Toml.Changes
import CompileDesk.Proofs.Toml.Statements

/-! # Documents are built from the blocks that were written

The statements of the blocks of a table build that table again, block by block: where the path of a block
leads, nothing stands yet, and afterwards the value that was written stands there. A block that is not
written leaves its table to the headers of those inside it.
-/

namespace CompileDesk.Toml

/-- Adding statements makes of a document under construction one with this root. -/
def Makes (statements : List Statement) (d : Draft) (root : Nodes) : Prop :=
  ∃ opened, statements.foldlM Draft.add d = .ok ⟨root, opened⟩

theorem Makes.nil (d : Draft) : Makes [] d d.root := ⟨d.opened, rfl⟩

theorem Makes.append {these those : List Statement} {d : Draft} {root root' : Nodes}
    (h : Makes these d root) (h' : ∀ opened, Makes those ⟨root, opened⟩ root') :
    Makes (these ++ those) d root' := by
  obtain ⟨opened, made⟩ := h
  obtain ⟨opened', made'⟩ := h' opened
  exact ⟨opened', by rw [List.foldlM_append, made]; exact made'⟩

theorem Makes.cons {first : Statement} {others : List Statement} {d d' : Draft} {root : Nodes}
    (added : d.add first = .ok d') (h : Makes others d' root) : Makes (first :: others) d root := by
  obtain ⟨opened, made⟩ := h
  exact ⟨opened, by rw [List.foldlM_cons, added]; exact made⟩

section Statements

variable {path : List String} {key : String} {v : Toml} {root inner : Nodes} {put : Nodes → Nodes}

theorem add_binding (leads : Leads path root inner put) (free : key ∉ inner.map (·.1))
    (discrete : isDiscrete v) (order : InOrder v) :
    Draft.add ⟨root, path⟩ (.binding (keyOf [] key) (formOf v)) =
      .ok ⟨put (inner ++ [(key, .value v)]), path⟩ := by
  have bound := leads (bind? [] key v)
  rw [bind?_nil free] at bound
  rw [Draft.add, keyOf_names, formOf_value v discrete order]
  simp only [Except.bind, bound, along_nil, wellFormed]
  rfl

theorem add_header (leads : Leads path root inner put) (free : key ∉ inner.map (·.1))
    (short : path.length < pathLimit) (opened : List String) :
    Draft.add ⟨root, opened⟩ (.header (keyOf path key)) =
      .ok ⟨put (inner ++ [(key, .table .header [])]), path ++ [key]⟩ := by
  have opens : openTable? [] key inner = some (inner ++ [(key, .table .header [])]) := by
    simp [openTable?, changeAt, lookup_eq_none_of_notMem free]
  have opened' := leads (openTable? [] key)
  rw [opens, ← openTable?_eq] at opened'
  rw [Draft.add, keyOf_names]
  simp only [Except.bind, opened', along_of_lt short, wellFormed]
  rfl

/-- The entries with elements of an array of tables under a key, none at first. -/
def withElements (key : String) (inner : Nodes) (done : List Nodes) : Nodes :=
  if done.isEmpty then inner else inner ++ [(key, .tables done)]

theorem withElements_append (key : String) (inner : Nodes) (done : List Nodes) (last : Nodes) :
    withElements key inner (done ++ [last]) = inner ++ [(key, .tables (done ++ [last]))] := by
  simp [withElements]

theorem add_element {done : List Nodes} (leads : Leads path root (withElements key inner done) put)
    (free : key ∉ inner.map (·.1)) (short : path.length < pathLimit) (opened : List String) :
    Draft.add ⟨root, opened⟩ (.element (keyOf path key)) =
      .ok ⟨put (inner ++ [(key, .tables (done ++ [[]]))]), path ++ [key]⟩ := by
  have opens : openElement? [] key (withElements key inner done) =
      some (inner ++ [(key, .tables (done ++ [[]]))]) := by
    cases done with
    | nil => simp [withElements, openElement?, changeAt, lookup_eq_none_of_notMem free]
    | cons first done =>
      simp [withElements, openElement?, changeAt, lookup_append_self free, setNode_append_self free]
  have opened' := leads (openElement? [] key)
  rw [opens, ← openElement?_eq] at opened'
  rw [Draft.add, keyOf_names]
  simp only [Except.bind, opened', along_of_lt short, wellFormed]
  rfl

/-- The statements of a block whose values can be read. -/
def Block.written (b : Block) : List Statement :=
  b.heading ++ b.plain.map fun e => .binding (keyOf [] e.1) (formOf e.2)

/-- The statements of those blocks that are written. -/
def writtenOf (blocks : List Block) : List Statement :=
  (blocks.filter Block.isWritten).flatMap Block.written

theorem makes_bindings {entries : Table} (leads : Leads path root inner put)
    (stands : put inner = root) (free : ∀ e ∈ entries, e.1 ∉ inner.map (·.1))
    (distinct : entries.Pairwise (·.1 ≠ ·.1))
    (discrete : haveDiscrete entries) (order : EntriesInOrder entries) :
    Makes (entries.map fun e => .binding (keyOf [] e.1) (formOf e.2)) ⟨root, path⟩
      (put (inner ++ valueNodes entries)) := by
  induction entries generalizing inner root with
  | nil =>
    rw [valueNodes, List.map_nil, List.map_nil, List.append_nil, stands]
    exact .nil _
  | cons e entries ih =>
    obtain ⟨key, v⟩ := e
    rw [haveDiscrete, Bool.and_eq_true] at discrete
    obtain ⟨apart, distinct⟩ := List.pairwise_cons.mp distinct
    have first := add_binding leads (free _ List.mem_cons_self) discrete.1 order.1
    have others := ih (leads.after (inner ++ [(key, .value v)])) rfl ?_ distinct discrete.2 order.2
    · refine .cons first ?_
      rwa [List.append_assoc] at others
    · intro e there
      have different : e.1 ≠ key := (apart e there).symm
      simpa [different] using free e (List.mem_cons_of_mem _ there)

end Statements

/-! ## Blocks one after the other -/

theorem writtenOf_append (these those : List Block) :
    writtenOf (these ++ those) = writtenOf these ++ writtenOf those := by
  simp [writtenOf]

theorem writtenOf_cons {b : Block} (written : b.isWritten) (blocks : List Block) :
    writtenOf (b :: blocks) = b.written ++ writtenOf blocks := by
  simp [writtenOf, written]

theorem writtenOf_cons_of_not {b : Block} (unwritten : ¬ b.isWritten) (blocks : List Block) :
    writtenOf (b :: blocks) = writtenOf blocks := by
  simp [writtenOf, unwritten]

/-- The headers of the blocks that are written are short enough. -/
def ShortPaths (blocks : List Block) : Prop :=
  ∀ b ∈ blocks, b.isWritten → b.path.length ≤ pathLimit

theorem length_lt_pathLimit {path : List String} {key : String}
    (short : (path ++ [key]).length ≤ pathLimit) : path.length < pathLimit := by
  rwa [List.length_append] at short

/-- The entries with sections of their own. -/
def sectioned (entries : Table) : Table := entries.filter fun e => isSectioned e.2

/-- The entries without sections of their own. -/
def plainOf (entries : Table) : Table := entries.filter fun e => !isSectioned e.2

theorem plain_append_sectioned (entries : Table) :
    (plainOf entries ++ sectioned entries).Perm entries :=
  List.perm_append_comm.trans (List.filter_append_perm ..)

theorem sectioned_free {entries : Table} (increasing : Increasing entries) :
    ∀ e ∈ sectioned entries, e.1 ∉ (valueNodes (plainOf entries)).map (·.1) := by
  intro e there plain
  have distinct := ((plain_append_sectioned entries).pairwise_iff Ne.symm).mpr increasing.distinct
  obtain ⟨_, _, apart⟩ := List.pairwise_append.mp distinct
  rw [valueNodes, List.map_map] at plain
  obtain ⟨e', there', same⟩ := List.mem_map.mp plain
  exact apart e' there' e there same

/-- The values under construction in a table: first those in lines, then those in blocks. -/
def tableNodes (entries : Table) (nodes : Nodes) : Nodes := valueNodes (plainOf entries) ++ nodes

theorem finish_tableNodes {entries : Table} {nodes : Nodes} (increasing : Increasing entries)
    (inside : finished nodes = sectioned entries) :
    finishEntries (tableNodes entries nodes) [] = entries := by
  refine finishEntries_eq increasing ?_
  have parts : finished (tableNodes entries nodes) = plainOf entries ++ sectioned entries := by
    rw [finished, tableNodes, List.map_append, ← finished, ← finished, finished_valueNodes, inside]
  rw [parts]
  exact plain_append_sectioned entries

/-- The statements of the lines of a table. -/
def linesOf (entries : Table) : List Statement :=
  (plainOf entries).map fun e => .binding (keyOf [] e.1) (formOf e.2)

theorem Block.written_table (path : List String) (key : String) (entries : Table) :
    (Block.mk (path ++ [key]) false entries).written = .header (keyOf path key) :: linesOf entries := by
  simp [written, heading, linesOf, plainOf, plain]

theorem Block.written_element (path : List String) (key : String) (entries : Table) :
    (Block.mk (path ++ [key]) true entries).written = .element (keyOf path key) :: linesOf entries := by
  simp [written, heading, linesOf, plainOf, plain]

theorem Block.isWritten_element (path : List String) (key : String) (entries : Table) :
    (Block.mk (path ++ [key]) true entries).isWritten := by
  simp [isWritten, toSection, ownSection, Section.isWritten]

theorem isEmpty_plainLines (entries : Table) :
    (plainLines entries).isEmpty = (plainOf entries).isEmpty := by
  change ((plainOf entries).flatMap fun e => entryLine e.1 e.2).isEmpty = _
  cases plainOf entries with
  | nil => rfl
  | cons e rest => simp [entryLine]

theorem any_isSectioned (entries : Table) :
    (entries.any fun e => isSectioned e.2) = !(sectioned entries).isEmpty := by
  rw [Bool.eq_iff_iff]
  simp [sectioned, List.filter_eq_nil_iff]

/-- A table without a header of its own has entries with sections and no others. -/
theorem Block.of_not_isWritten {path : List String} {key : String} {entries : Table}
    (h : ¬ (Block.mk (path ++ [key]) false entries).isWritten) :
    plainOf entries = [] ∧ sectioned entries ≠ [] := by
  simpa [isWritten, toSection, ownSection, Section.isWritten, isEmpty_plainLines, any_isSectioned]
    using h

/-- A root that is not written has no lines. -/
theorem Block.lines_of_not_isWritten {root : Table} (h : ¬ (Block.mk [] false root).isWritten) :
    linesOf root = [] := by
  have noLines : plainOf root = [] := by
    simpa [isWritten, toSection, ownSection, Section.isWritten, isEmpty_plainLines] using h
  rw [linesOf, noLines, List.map_nil]

/-- The lines of a table that has just been opened, and then its blocks. -/
theorem makes_table {path : List String} {root : Nodes} {put : Nodes → Nodes} {entries : Table}
    {nodes : Nodes} (discrete : haveDiscrete entries) (order : EntriesInOrder entries)
    (increasing : Increasing entries) (leads : Leads path root [] put) (stands : put [] = root)
    (children : ∀ opened, Makes (writtenOf (childBlocks path entries))
      ⟨put (valueNodes (plainOf entries)), opened⟩
      (if nodes.isEmpty then put (valueNodes (plainOf entries)) else put (tableNodes entries nodes))) :
    Makes (linesOf entries ++ writtenOf (childBlocks path entries)) ⟨root, path⟩
      (put (tableNodes entries nodes)) := by
  subst stands
  have plain : (plainOf entries).Sublist entries := List.filter_sublist
  have discrete' : haveDiscrete (plainOf entries) :=
    haveDiscrete_iff.mpr fun e there => haveDiscrete_iff.mp discrete e (plain.subset there)
  have order' : EntriesInOrder (plainOf entries) :=
    entriesInOrder_iff.mpr fun e there => entriesInOrder_iff.mp order e (plain.subset there)
  have lines := makes_bindings leads rfl (fun _ _ => List.not_mem_nil)
    (increasing.distinct.sublist plain) discrete' order'
  refine lines.append fun opened => ?_
  cases nodes with
  | nil => simpa [tableNodes] using children opened
  | cons => exact children opened

mutual

theorem makes_value {path : List String} {key : String} {root inner : Nodes} {put : Nodes → Nodes} :
    (v : Toml) → isDiscrete v → InOrder v → isSectioned v → Leads path root inner put →
    key ∉ inner.map (·.1) → ShortPaths (blocksOf (path ++ [key]) v) →
      ∃ node, node.finish = v ∧ ∀ opened,
        Makes (writtenOf (blocksOf (path ++ [key]) v)) ⟨root, opened⟩ (put (inner ++ [(key, node)]))
  | .table entries, discrete, order, _, leads, free, short => by
    obtain ⟨increasing, order⟩ := order
    rw [blocksOf] at short ⊢
    obtain ⟨own, inside⟩ := List.forall_mem_cons.mp short
    by_cases written : (Block.mk (path ++ [key]) false entries).isWritten
    · have leads' := (leads.after (inner ++ [(key, .table .header [])])).to_table free
      obtain ⟨nodes, finish, children⟩ := makes_children entries discrete order increasing
        (sectioned_free increasing) (leads'.after _) inside
      refine ⟨.table .header (tableNodes entries nodes), ?_, fun opened => ?_⟩
      · rw [Node.finish, finish_tableNodes increasing finish]
      · have header := add_header leads free (length_lt_pathLimit (own written)) opened
        have content := makes_table discrete order increasing leads' rfl children
        rw [writtenOf_cons written, Block.written_table]
        exact .cons header content
    -- no header names the table, so that nothing stands at its path before the blocks inside it
    · obtain ⟨noPlain, some⟩ := Block.of_not_isWritten written
      have nothing : ∀ e ∈ sectioned entries, e.1 ∉ List.map Prod.fst ([] : Nodes) :=
        fun _ _ => List.not_mem_nil
      obtain ⟨nodes, finish, made⟩ := makes_children entries discrete order increasing nothing
        (leads.to_missing free) inside
      have more : nodes ≠ [] := by
        rintro rfl
        exact some finish.symm
      refine ⟨.table .implicit nodes, ?_, fun opened => ?_⟩
      · have whole := finish_tableNodes increasing finish
        rw [tableNodes, noPlain] at whole
        rw [Node.finish]
        exact congrArg table whole
      · rw [writtenOf_cons_of_not written]
        simpa [more] using made opened
  | .array items, discrete, order, sections, leads, free, short => by
    have tables : items ≠ [] ∧ items.all isTable := by
      simpa [isSectioned, isTable, isTableArray] using sections
    rw [blocksOf] at short ⊢
    obtain ⟨elements, finish, made⟩ := makes_elements items discrete order tables.2 free []
      (by simpa [withElements] using leads) short
    have more : elements ≠ [] := by
      rintro rfl
      exact tables.1 (by rw [← finish, finishElements])
    refine ⟨.tables elements, by rw [Node.finish, finish], fun opened => ?_⟩
    simpa [more] using made opened

/-- The blocks of entries with sections of their own, of which there may be none. -/
theorem makes_children {path : List String} {root inner : Nodes} {put : Nodes → Nodes} :
    (entries : List (String × Toml)) → haveDiscrete entries → EntriesInOrder entries →
    Increasing entries → (∀ e ∈ sectioned entries, e.1 ∉ inner.map (·.1)) →
    Leads path root inner put → ShortPaths (childBlocks path entries) →
      ∃ nodes, finished nodes = sectioned entries ∧ ∀ opened,
        Makes (writtenOf (childBlocks path entries)) ⟨root, opened⟩
          (if nodes.isEmpty then root else put (inner ++ nodes))
  | [], _, _, _, _, _, _ => ⟨[], rfl, fun _ => .nil _⟩
  | (key, v) :: entries, discrete, order, increasing, free, leads, short => by
    rw [haveDiscrete, Bool.and_eq_true] at discrete
    obtain ⟨above, increasing⟩ := List.pairwise_cons.mp increasing
    rw [childBlocks] at short ⊢
    by_cases sections : isSectioned v
    · rw [if_pos sections] at short ⊢
      have parts : sectioned ((key, v) :: entries) = (key, v) :: sectioned entries :=
        List.filter_cons_of_pos sections
      rw [parts] at free ⊢
      obtain ⟨free, others⟩ := List.forall_mem_cons.mp free
      obtain ⟨short, shorts⟩ := List.forall_mem_append.mp short
      obtain ⟨node, finish, made⟩ := makes_value v discrete.1 order.1 sections leads free short
      -- the keys increase, so the later ones are still free
      have stillFree : ∀ e ∈ sectioned entries, e.1 ∉ (inner ++ [(key, node)]).map (·.1) := by
        intro e there
        have different : e.1 ≠ key :=
          (String.ne_of_lt (above e (List.mem_filter.mp there).1)).symm
        simpa [different] using others e there
      obtain ⟨nodes, finished', made'⟩ := makes_children entries discrete.2 order.2 increasing
        stillFree (leads.after _) shorts
      refine ⟨(key, node) :: nodes, ?_, fun opened => ?_⟩
      · rw [finished, List.map_cons, ← finished, finish, finished']
      · rw [writtenOf_append]
        refine (made opened).append fun opened => ?_
        cases nodes with
        | nil => exact made' opened
        | cons => simpa using made' opened
    · rw [if_neg sections, List.nil_append] at short ⊢
      have parts : sectioned ((key, v) :: entries) = sectioned entries :=
        List.filter_cons_of_neg sections
      rw [parts] at free ⊢
      exact makes_children entries discrete.2 order.2 increasing free leads short

theorem makes_elements {path : List String} {key : String} {root inner : Nodes} {put : Nodes → Nodes} :
    (items : List Toml) → areDiscrete items → AllInOrder items → items.all isTable →
    key ∉ inner.map (·.1) → ∀ done, Leads path root (withElements key inner done) put →
    ShortPaths (elementBlocks (path ++ [key]) items) →
      ∃ elements, finishElements elements = items ∧ ∀ opened,
        Makes (writtenOf (elementBlocks (path ++ [key]) items)) ⟨root, opened⟩
          (if elements.isEmpty then root else put (inner ++ [(key, .tables (done ++ elements))]))
  | [], _, _, _, _, _, _, _ => ⟨[], by rw [finishElements], fun _ => .nil _⟩
  | .table entries :: items, discrete, order, tables, free, done, leads, short => by
    rw [areDiscrete, Bool.and_eq_true] at discrete
    obtain ⟨⟨increasing, order⟩, orders⟩ := order
    rw [elementBlocks] at short ⊢
    obtain ⟨short, shorts⟩ := List.forall_mem_append.mp short
    obtain ⟨own, inside⟩ := List.forall_mem_cons.mp short
    have written := Block.isWritten_element path key entries
    have leads' := (leads.after (inner ++ [(key, .tables (done ++ [[]]))])).to_element free
    obtain ⟨nodes, finish, children⟩ := makes_children entries discrete.1 order increasing
      (sectioned_free increasing) (leads'.after _) inside
    have content := makes_table discrete.1 order increasing leads' rfl children
    -- the next header adds an element after this one, whatever the blocks inside it made
    have next := leads.after (withElements key inner (done ++ [tableNodes entries nodes]))
    obtain ⟨elements, finish', made⟩ := makes_elements items discrete.2 orders tables free _ next shorts
    rw [withElements_append] at made
    refine ⟨tableNodes entries nodes :: elements, ?_, fun opened => ?_⟩
    · rw [finishElements, finish_tableNodes increasing finish, finish']
    · have header := add_element leads free (length_lt_pathLimit (own written)) opened
      rw [writtenOf_append, writtenOf_cons written, Block.written_element]
      refine (Makes.cons header content).append fun opened => ?_
      cases elements with
      | nil => exact made opened
      | cons => simpa using made opened

end

/-- The statements of a document build the table that was written. -/
theorem makes_document {root : Table} (discrete : haveDiscrete root) (order : InOrder (.table root))
    (short : ShortPaths (blocksOf [] (.table root))) :
    ∃ nodes, finishEntries nodes [] = root ∧
      Makes (writtenOf (blocksOf [] (.table root))) {} nodes := by
  obtain ⟨increasing, order⟩ := order
  rw [blocksOf] at short ⊢
  obtain ⟨-, inside⟩ := List.forall_mem_cons.mp short
  obtain ⟨nodes, finish, children⟩ := makes_children root discrete order increasing
    (sectioned_free increasing) ((leads_root []).after _) inside
  have content := makes_table discrete order increasing (leads_root []) rfl children
  refine ⟨tableNodes root nodes, finish_tableNodes increasing finish, ?_⟩
  by_cases written : (Block.mk [] false root).isWritten
  · rw [writtenOf_cons written]
    exact content
  · rw [writtenOf_cons_of_not written]
    rwa [Block.lines_of_not_isWritten written, List.nil_append] at content

/-! ## What is written is read again -/

/-- A document that can be read again: no header has more parts than a path may have, and in no line
arrays and tables stand too deep inside one another. -/
def Readable (root : Table) : Prop :=
  ∀ b ∈ writtenBlocks root, b.path.length ≤ pathLimit ∧
    ∀ e ∈ plainOf b.entries, nesting e.2 ≤ depthLimit

theorem Block.statements?_of_shallow {b : Block}
    (shallow : ∀ e ∈ plainOf b.entries, nesting e.2 ≤ depthLimit) :
    b.statements? = some b.written := by
  have lines : (b.plain.map fun e => (bindingOf [] e.1 e.2).map ([·])) =
      (b.plain.map fun e => [.binding (keyOf [] e.1) (formOf e.2)]).map some := by
    rw [List.map_map]
    refine List.map_congr_left fun e there => ?_
    simp [bindingOf, shallow e there]
  rw [statements?, lines, inTurn_some, Option.map_some, written, ← List.flatMap_def,
    ← List.map_eq_flatMap]

theorem Block.statements?_of_deep {b : Block} {e : String × Toml} (there : e ∈ plainOf b.entries)
    (deep : ¬ nesting e.2 ≤ depthLimit) : b.statements? = none := by
  rw [statements?, inTurn_none, Option.map_none]
  exact List.mem_map.mpr ⟨e, there, by simp [bindingOf, deep]⟩

theorem inTurn_of_shallow {blocks : List Block}
    (shallow : ∀ b ∈ blocks, ∀ e ∈ plainOf b.entries, nesting e.2 ≤ depthLimit) :
    inTurn (blocks.map Block.statements?) = some (blocks.flatMap Block.written) := by
  have all : blocks.map Block.statements? = (blocks.map Block.written).map some := by
    rw [List.map_map]
    exact List.map_congr_left fun b there => Block.statements?_of_shallow (shallow b there)
  rw [all, inTurn_some, List.flatMap_def]

/-- A document is read as the table that was written. -/
theorem parse_render {root : Table} (discrete : haveDiscrete root) (order : InOrder (.table root))
    (readable : Readable root) : parse (render root) = .ok root := by
  have short : ShortPaths (blocksOf [] (.table root)) := fun b there written =>
    (readable b (List.mem_filter.mpr ⟨there, written⟩)).1
  obtain ⟨nodes, finish, opened, made⟩ := makes_document discrete order short
  have cut := inTurn_of_shallow fun b there => (readable b there).2
  rw [parse, statements?_render discrete, cut]
  change ((writtenOf (blocksOf [] (.table root))).foldlM Draft.add {}).map _ = _
  rw [made]
  exact congrArg Except.ok finish

/-- A header whose path is too long stops the reader, whatever comes before it. -/
theorem Block.fails_of_long {b : Block} (long : ¬ b.path.length ≤ pathLimit) :
    ∃ statement ∈ b.written, ∀ d, ∃ fault, Draft.add d statement = .error fault := by
  obtain ⟨path, element, entries⟩ := b
  obtain rfl | ⟨path, key, rfl⟩ := List.eq_nil_or_concat path
  · exact absurd (Nat.zero_le _) long
  · have tooLong : ∀ {α : Type} (result : Option α), along path result = .error .tooDeep := fun result =>
      if_pos (by simpa [Nat.lt_succ_iff] using long)
    rw [List.concat_eq_append]
    cases element with
    | true =>
      refine ⟨_, by rw [Block.written_element]; exact List.mem_cons_self, fun d => ⟨.tooDeep, ?_⟩⟩
      rw [Draft.add, keyOf_names]
      simp [Except.bind, tooLong, Except.map]
    | false =>
      refine ⟨_, by rw [Block.written_table]; exact List.mem_cons_self, fun d => ⟨.tooDeep, ?_⟩⟩
      rw [Draft.add, keyOf_names]
      simp [Except.bind, tooLong, Except.map]

theorem foldlM_error_of_mem {statements : List Statement} {statement : Statement}
    (there : statement ∈ statements) (fails : ∀ d, ∃ fault, Draft.add d statement = .error fault)
    (d : Draft) : ∃ fault, statements.foldlM Draft.add d = .error fault := by
  induction statements generalizing d with
  | nil => cases there
  | cons first others ih =>
    rw [List.foldlM_cons]
    cases added : Draft.add d first with
    | error fault => exact ⟨fault, rfl⟩
    | ok d' =>
      obtain rfl | there := List.mem_cons.mp there
      · obtain ⟨fault, failed⟩ := fails d
        cases failed.symm.trans added
      · exact ih there d'

/-- A document beyond the limits of the reader is not read. -/
theorem readable_of_parse_render {root root' : Table} (discrete : haveDiscrete root)
    (read : parse (render root) = .ok root') : Readable root := by
  rw [parse, statements?_render discrete] at read
  have shallow : ∀ b ∈ writtenBlocks root, ∀ e ∈ plainOf b.entries, nesting e.2 ≤ depthLimit := by
    intro b there e plain
    by_contra deep
    -- one line that cannot be read spoils the whole text
    have fails : none ∈ (writtenBlocks root).map Block.statements? :=
      List.mem_map.mpr ⟨b, there, Block.statements?_of_deep plain deep⟩
    rw [inTurn_none fails] at read
    cases read
  refine fun b there => ⟨?_, shallow b there⟩
  by_contra long
  obtain ⟨statement, mem, fails⟩ := Block.fails_of_long long
  obtain ⟨fault, failed⟩ := foldlM_error_of_mem (List.mem_flatMap.mpr ⟨b, there, mem⟩) fails {}
  rw [inTurn_of_shallow shallow] at read
  change ((writtenBlocks root).flatMap Block.written |>.foldlM Draft.add {}).map _ = _ at read
  rw [failed] at read
  cases read

end CompileDesk.Toml
