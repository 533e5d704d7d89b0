import CompileDesk.Proofs.Toml.Values

/-! # Documents are cut into the statements that were written

The text of a document is made of lines. Reading a line in front of any other text gives the statements of
the line and then those of the other text, so that the statements of a document are those of its
lines, one after the other. A document is written block by block, each table and each element of an
array of tables with its header and its plain entries.
-/

namespace CompileDesk.Toml

/-! ## Texts in front of others -/

/-- Reading a text in front of any other gives these statements and then those of the other, or fails. -/
def Reads (text : List Char) (statements : Option (List Statement)) : Prop :=
  ∀ (rest : List Char) (others : Option (List Statement)),
    (∀ fuel, rest.length < fuel → readStatements? fuel rest = others) →
    ∀ fuel, (text ++ rest).length < fuel →
      readStatements? fuel (text ++ rest) = statements.bind fun these => others.map (these ++ ·)

/-- The statements of texts one after the other. -/
def inTurn : List (Option (List Statement)) → Option (List Statement)
  | [] => some []
  | statements :: rest => statements.bind fun these => (inTurn rest).map (these ++ ·)

theorem inTurn_some (statements : List (List Statement)) :
    inTurn (statements.map some) = some statements.flatten := by
  induction statements with
  | nil => rfl
  | cons these rest ih => simp [inTurn, ih]

theorem inTurn_none {statements : List (Option (List Statement))} (fails : none ∈ statements) :
    inTurn statements = none := by
  induction statements with
  | nil => cases fails
  | cons these rest ih =>
    obtain rfl | later := List.mem_cons.mp fails
    · rfl
    · rw [inTurn, ih later]
      cases these <;> rfl

theorem Reads.nil : Reads [] (some []) := by
  intro rest others known fuel enough
  rw [List.nil_append, known fuel enough]
  simp

theorem Reads.append {s s' : List Char} {o o' : Option (List Statement)} (h : Reads s o)
    (h' : Reads s' o') : Reads (s ++ s') (o.bind fun these => o'.map (these ++ ·)) := by
  intro rest others known fuel enough
  rw [List.append_assoc] at enough ⊢
  rw [h _ _ (h' rest others known) fuel enough]
  cases o <;> cases o' <;> simp [Function.comp_def]

theorem Reads.flatten {α : Type} {text : α → List Char} {statements : α → Option (List Statement)}
    {pieces : List α} (reads : ∀ a ∈ pieces, Reads (text a) (statements a)) :
    Reads (pieces.flatMap text) (inTurn (pieces.map statements)) := by
  induction pieces with
  | nil => exact .nil
  | cons a pieces ih =>
    obtain ⟨first, others⟩ := List.forall_mem_cons.mp reads
    exact first.append (ih others)

/-- Whether a text has blank lines and comments only; the flag tells that a comment is under way. -/
def isLayout : Bool → List Char → Bool
  | commented, [] => !commented
  | commented, c :: rest =>
    if c == '\n' then isLayout false rest
    else if commented then isPlain c && isLayout true rest
    else if isLineBlank c then isLayout false rest
    else c == '#' && isLayout true rest

theorem isLayout_comment {text : List Char} (plain : text.all isPlain) (rest : List Char) :
    isLayout true (text ++ '\n' :: rest) = isLayout false rest := by
  induction text with
  | nil => rfl
  | cons c text ih =>
    rw [List.all_cons, Bool.and_eq_true] at plain
    have noLineEnd : c ≠ '\n' := by
      rintro rfl
      cases plain.1
    simp [isLayout, noLineEnd, plain.1, ih plain.2]

/-- A comment goes to the end of its line. -/
theorem isLayout_sign {text : List Char} (plain : text.all isPlain) (rest : List Char) :
    isLayout false ('#' :: (text ++ '\n' :: rest)) = isLayout false rest := by
  rw [← isLayout_comment plain rest]
  rfl

theorem skipLayoutGo_of_isLayout {commented : Bool} {text : List Char} (h : isLayout commented text)
    (rest : List Char) : skipLayoutGo commented (text ++ rest) = skipLayoutGo false rest := by
  induction text generalizing commented with
  | nil =>
    obtain rfl : commented = false := by simpa [isLayout] using h
    rfl
  | cons c text ih =>
    rw [isLayout] at h
    split at h
    · rename_i lineEnd
      obtain rfl : c = '\n' := by simpa using lineEnd
      simpa [skipLayoutGo] using ih h
    · rename_i other
      have other : c ≠ '\n' := by simpa using other
      have noReturn : c ≠ '\r' := by
        rintro rfl
        cases commented <;> cases h
      split at h
      · rename_i inside
        subst inside
        rw [Bool.and_eq_true] at h
        simpa [skipLayoutGo, other, noReturn, h.1] using ih h.2
      · rename_i outside
        obtain rfl : commented = false := by simpa using outside
        split at h
        · rename_i blank
          simpa [skipLayoutGo, other, noReturn, blank] using ih h
        · rename_i noBlank
          simp only [Bool.and_eq_true, beq_iff_eq] at h
          obtain ⟨rfl, h⟩ := h
          simpa [skipLayoutGo, noBlank] using ih h

/-- A text of blank lines and comments has no statements. -/
theorem Reads.of_layout {text : List Char} (layout : isLayout false text) : Reads text (some []) := by
  have h (rest : List Char) : skipLayout (text ++ rest) = skipLayout rest :=
    skipLayoutGo_of_isLayout layout rest
  intro rest others known fuel enough
  obtain ⟨fuel, rfl⟩ := Nat.exists_eq_succ_of_ne_zero (Nat.ne_of_gt (Nat.zero_lt_of_lt enough))
  have same : readStatements? (fuel + 1) (text ++ rest) = readStatements? (fuel + 1) rest := by
    rw [readStatements?, readStatements?, h]
  rw [List.length_append] at enough
  rw [same, known (fuel + 1) (by omega)]
  simp

theorem Reads.lineEnd : Reads ['\n'] (some []) := .of_layout rfl

/-- Lines with line ends between them. -/
theorem Reads.joined {α : Type} {text : α → List Char} {statements : α → Option (List Statement)}
    {pieces : List α} (reads : ∀ a ∈ pieces, Reads (text a) (statements a)) :
    Reads (joinedWith ['\n'] (pieces.map text)) (inTurn (pieces.map statements)) := by
  induction pieces with
  | nil => exact .nil
  | cons a pieces ih =>
    obtain ⟨first, others⟩ := List.forall_mem_cons.mp reads
    by_cases last : pieces = []
    · subst last
      rw [List.map_singleton, joinedWith, ← List.append_nil (text a)]
      exact first.append .nil
    · rw [List.map_cons, joinedWith_cons (by simpa using last), List.append_assoc]
      have rest := Reads.lineEnd.append (ih others)
      simpa [inTurn, Option.map_map, Function.comp_def] using first.append rest

/-- A text that begins a statement and holds it up to the end of its line. -/
theorem Reads.of_statement {c : Char} {text : List Char} (statement : Option Statement)
    (starts : startsValue c)
    (read : ∀ rest, readStatement? (c :: (text ++ rest)) = statement.map (·, rest)) :
    Reads (c :: text) (statement.map ([·])) := by
  intro rest others known fuel enough
  obtain ⟨fuel, rfl⟩ := Nat.exists_eq_succ_of_ne_zero (Nat.ne_of_gt (Nat.zero_lt_of_lt enough))
  simp only [List.cons_append, List.length_cons, List.length_append] at enough
  have others := known fuel (by omega)
  rw [List.cons_append, readStatements?, skipLayout_value starts]
  simp only [read]
  cases statement with
  | none => rfl
  | some statement => simp [others]

theorem Reads.statements? {text : String} {o : Option (List Statement)} (reads : Reads text.toList o)
    (noMark : text.toList.head? ≠ some '\uFEFF') : Toml.statements? text = o := by
  have read := reads [] (some []) (fun fuel enough => ?_) (text.toList.length + 1) (by simp)
  · rw [List.append_nil] at read
    unfold Toml.statements?
    split
    · rename_i rest same
      simp [same] at noMark
    · rw [read]
      simp
  · obtain ⟨fuel, rfl⟩ := Nat.exists_eq_succ_of_ne_zero (Nat.ne_of_gt enough)
    rfl

/-! ## Lines -/

/-- A value under a key, if its form can be read. -/
def bindingOf (path : List String) (key : String) (v : Toml) : Option Statement :=
  if nesting v ≤ depthLimit then some (.binding (keyOf path key) (formOf v)) else none

theorem joinedKeys_head (path : List String) (last : String) :
    ∃ c more, joinedWith ['.'] ((path ++ [last]).map quotedKey) = c :: more ∧ startsPart c := by
  cases path with
  | nil => exact quotedKey_head last
  | cons part path =>
    obtain ⟨c, more, eq, starts⟩ := quotedKey_head part
    rw [List.cons_append, List.map_cons, joinedWith_cons (by simp), eq]
    exact ⟨c, _, rfl, starts⟩

theorem skipBlanks_value {v : Toml} (discrete : isDiscrete v) (rest : List Char) :
    skipBlanks (' ' :: (inline v ++ rest)) = inline v ++ rest := by
  obtain ⟨c, more, eq, starts⟩ := inline_head discrete
  rw [eq, List.cons_append]
  refine (skipBlanks_of_head (s := more ++ rest) (Bool.eq_false_iff.mpr fun blank => ?_))
  simp only [isLineBlank, Bool.or_eq_true, beq_iff_eq] at blank
  obtain rfl | rfl := blank <;> cases starts

/-- The line of a value under a key. -/
theorem Reads.binding (path : List String) (key : String) {v : Toml} (discrete : isDiscrete v) :
    Reads (joinedWith ['.'] ((path ++ [key]).map quotedKey) ++ ' ' :: '=' :: ' ' ::
        (inline v ++ ['\n'])) ((bindingOf path key v).map ([·])) := by
  obtain ⟨c, more, eq, starts⟩ := joinedKeys_head path key
  have noBracket : c ≠ '[' := by
    rintro rfl
    cases starts
  rw [eq]
  refine .of_statement _ (startsValue_of_startsPart starts) fun rest => ?_
  have text : c :: (more.append (' ' :: '=' :: ' ' :: (inline v ++ ['\n'])) ++ rest) =
      joinedWith ['.'] ((path ++ [key]).map quotedKey) ++ ' ' :: '=' :: ' ' ::
        (inline v ++ '\n' :: rest) := by
    rw [eq]
    simp
  have named := readKey?_entry path key (' ' :: (inline v ++ '\n' :: rest))
  have ends : EndsValue ('\n' :: rest) := ⟨'\n', rest, rfl, by simp⟩
  have read := readForm?_inline v discrete ends
    (2 * (' ' :: (inline v ++ '\n' :: rest)).length + 2) depthLimit (by simp; omega)
  rw [eq, List.cons_append] at named
  rw [text, eq, List.cons_append, readStatement?, named]
  · simp only [skipBlanks_value discrete, read, bindingOf]
    by_cases deep : nesting v ≤ depthLimit
    · rw [if_pos deep, if_pos deep]
      rfl
    · rw [if_neg deep, if_neg deep]
      rfl
  · exact fun _ same => noBracket (List.cons.inj same).1
  · exact fun _ same => noBracket (List.cons.inj same).1

theorem Reads.header (path : List String) (last : String) :
    Reads ('[' :: (joinedWith ['.'] ((path ++ [last]).map quotedKey) ++ [']', '\n']))
      (some [.header (keyOf path last)]) := by
  refine .of_statement (some (.header (keyOf path last))) rfl fun rest => ?_
  have named := readKey?_header path last ('\n' :: rest)
  obtain ⟨c, more, eq, starts⟩ := joinedKeys_head path last
  have noBracket : c ≠ '[' := by
    rintro rfl
    cases starts
  rw [List.append_assoc, List.cons_append, List.singleton_append]
  rw [eq, List.cons_append] at named ⊢
  rw [readStatement?]
  · simp only [named]
    rfl
  · exact fun _ same => noBracket (List.cons.inj same).1

theorem Reads.element (path : List String) (last : String) :
    Reads ('[' :: '[' :: (joinedWith ['.'] ((path ++ [last]).map quotedKey) ++ [']', ']', '\n']))
      (some [.element (keyOf path last)]) := by
  refine .of_statement (some (.element (keyOf path last))) rfl fun rest => ?_
  have named := readKey?_header path last (']' :: '\n' :: rest)
  rw [List.cons_append, List.append_assoc, List.cons_append, List.cons_append, List.singleton_append,
    readStatement?]
  simp only [named]
  rfl

/-! ## Blocks -/

/-- A table that is written with its plain entries, under a header unless it is the root. -/
structure Block where
  path : List String
  element : Bool
  entries : Table

namespace Block

/-- The entries that are written in lines of the block itself. -/
def plain (b : Block) : Table := b.entries.filter fun e => !isSectioned e.2

def toSection (b : Block) : Section := ownSection b.path b.element b.entries

def isWritten (b : Block) : Bool := b.toSection.isWritten

def text (b : Block) : List Char := b.toSection.header ++ b.toSection.body

/-- The header of a block; the root has none. -/
def heading (b : Block) : List Statement :=
  let key := keyOf b.path.dropLast (b.path.getLastD "")
  if b.path.isEmpty then [] else if b.element then [.element key] else [.header key]

/-- The statements of a block, if its values can be read. -/
def statements? (b : Block) : Option (List Statement) :=
  (inTurn (b.plain.map fun e => (bindingOf [] e.1 e.2).map ([·]))).map (b.heading ++ ·)

end Block

mutual

def blocksOf (path : List String) : Toml → List Block
  | .table entries => ⟨path, false, entries⟩ :: childBlocks path entries
  | .array items => elementBlocks path items
  | _ => []

def childBlocks (path : List String) : List (String × Toml) → List Block
  | [] => []
  | (key, v) :: rest =>
    (if isSectioned v then blocksOf (path ++ [key]) v else []) ++ childBlocks path rest

def elementBlocks (path : List String) : List Toml → List Block
  | [] => []
  | .table entries :: rest =>
    ⟨path, true, entries⟩ :: childBlocks path entries ++ elementBlocks path rest
  | _ :: rest => elementBlocks path rest

end

mutual

theorem sectionsOf_eq (path : List String) :
    (v : Toml) → sectionsOf path v = (blocksOf path v).map Block.toSection
  | .table entries => by
    rw [sectionsOf, blocksOf, childSections_eq path entries]
    rfl
  | .array items => by rw [sectionsOf, blocksOf, elementSections_eq path items]
  | .string _ | .integer _ | .real _ | .boolean _ | .moment _ => by simp [sectionsOf, blocksOf]

theorem childSections_eq (path : List String) : (entries : List (String × Toml)) →
    childSections path entries = (childBlocks path entries).map Block.toSection
  | [] => by simp [childSections, childBlocks]
  | (key, v) :: rest => by
    rw [childSections, childBlocks, sectionsOf_eq _ v, childSections_eq path rest]
    split <;> simp

theorem elementSections_eq (path : List String) : (items : List Toml) →
    elementSections path items = (elementBlocks path items).map Block.toSection
  | [] => by simp [elementSections, elementBlocks]
  | .table entries :: rest => by
    rw [elementSections, elementBlocks, childSections_eq path entries, elementSections_eq path rest]
    simp [Block.toSection]
  | .array _ :: rest | .string _ :: rest | .integer _ :: rest | .real _ :: rest
  | .boolean _ :: rest | .moment _ :: rest => by
    simp [elementSections, elementBlocks, elementSections_eq path rest]

end

/-- The blocks of a document that are written. -/
def writtenBlocks (root : Table) : List Block := (blocksOf [] (.table root)).filter Block.isWritten

theorem render_eq (root : Table) :
    (render root).toList = joinedWith ['\n'] ((writtenBlocks root).map Block.text) := by
  rw [render, String.toList_ofList, documentSections, sectionsOf_eq, List.filter_map, List.map_map]
  rfl

mutual

theorem discrete_of_mem_blocksOf {path : List String} {b : Block} : {v : Toml} → isDiscrete v →
    b ∈ blocksOf path v → haveDiscrete b.entries
  | .table entries, discrete, there => by
    rw [blocksOf] at there
    obtain rfl | there := List.mem_cons.mp there
    · exact discrete
    · exact discrete_of_mem_childBlocks discrete there
  | .array items, discrete, there => by
    rw [blocksOf] at there
    exact discrete_of_mem_elementBlocks discrete there

theorem discrete_of_mem_childBlocks {path : List String} {b : Block} :
    {entries : List (String × Toml)} → haveDiscrete entries → b ∈ childBlocks path entries →
    haveDiscrete b.entries
  | (key, v) :: rest, discrete, there => by
    rw [haveDiscrete, Bool.and_eq_true] at discrete
    rw [childBlocks] at there
    obtain there | there := List.mem_append.mp there
    · split at there
      · exact discrete_of_mem_blocksOf discrete.1 there
      · cases there
    · exact discrete_of_mem_childBlocks discrete.2 there

theorem discrete_of_mem_elementBlocks {path : List String} {b : Block} : {items : List Toml} →
    areDiscrete items → b ∈ elementBlocks path items → haveDiscrete b.entries
  | v :: rest, discrete, there => by
    rw [areDiscrete, Bool.and_eq_true] at discrete
    cases v with
    | table entries =>
      rw [elementBlocks] at there
      obtain there | there := List.mem_append.mp there
      · obtain rfl | there := List.mem_cons.mp there
        · exact discrete.1
        · exact discrete_of_mem_childBlocks discrete.1 there
      · exact discrete_of_mem_elementBlocks discrete.2 there
    | _ => exact discrete_of_mem_elementBlocks discrete.2 (by simpa [elementBlocks] using there)

end

theorem haveDiscrete_iff {entries : Table} :
    haveDiscrete entries ↔ ∀ e ∈ entries, isDiscrete e.2 := by
  induction entries with
  | nil => simp [haveDiscrete]
  | cons e entries ih => simp [haveDiscrete, ih]

theorem Reads.entryLine (key : String) {v : Toml} (discrete : isDiscrete v) :
    Reads (Toml.entryLine key v) ((bindingOf [] key v).map ([·])) := by
  have line := Reads.binding [] key discrete
  rw [List.nil_append, List.map_singleton, joinedWith] at line
  simpa [Toml.entryLine] using line

theorem Block.reads_header (b : Block) : Reads b.toSection.header (some b.heading) := by
  obtain ⟨path, element, entries⟩ := b
  obtain rfl | ⟨path, last, rfl⟩ := List.eq_nil_or_concat path
  · exact .nil
  · cases element with
    | true => simpa [toSection, ownSection, Section.header, heading] using Reads.element path last
    | false => simpa [toSection, ownSection, Section.header, heading] using Reads.header path last

theorem Block.reads {b : Block} (discrete : haveDiscrete b.entries) : Reads b.text b.statements? := by
  have lines : Reads b.toSection.body
      (inTurn (b.plain.map fun e => (bindingOf [] e.1 e.2).map ([·]))) := by
    refine Reads.flatten fun e there => .entryLine e.1 ?_
    exact haveDiscrete_iff.mp discrete e (List.mem_filter.mp there).1
  exact b.reads_header.append lines

theorem head?_joined {pieces : List (List Char)} {mark : Char} (different : mark ≠ '\n')
    (pieces_ne : ∀ piece ∈ pieces, piece.head? ≠ some mark) :
    (joinedWith ['\n'] pieces).head? ≠ some mark := by
  cases pieces with
  | nil => nofun
  | cons piece pieces =>
    obtain ⟨first, _⟩ := List.forall_mem_cons.mp pieces_ne
    by_cases last : pieces = []
    · simpa [last, joinedWith] using first
    · rw [joinedWith_cons last]
      cases piece with
      | nil => simpa using different.symm
      | cons c piece => simpa using first

/-- No block begins with a byte order mark. -/
theorem Block.head?_text (b : Block) : b.text.head? ≠ some '\uFEFF' := by
  have body : b.toSection.body.head? ≠ some '\uFEFF' := by
    change (b.plain.flatMap fun e => entryLine e.1 e.2).head? ≠ _
    cases b.plain with
    | nil => nofun
    | cons e rest =>
      obtain ⟨c, more, eq, starts⟩ := quotedKey_head e.1
      rw [List.flatMap_cons, entryLine, eq]
      rintro same
      cases same
      cases starts
  obtain ⟨path, element, entries⟩ := b
  obtain rfl | ⟨path, last, rfl⟩ := List.eq_nil_or_concat path
  · exact body
  · cases element <;> simp [text, toSection, ownSection, Section.header]

/-- What a document is cut into. -/
theorem statements?_render {root : Table} (discrete : haveDiscrete root) :
    Toml.statements? (render root) = inTurn ((writtenBlocks root).map Block.statements?) := by
  have reads : Reads (render root).toList (inTurn ((writtenBlocks root).map Block.statements?)) := by
    rw [render_eq]
    refine .joined fun b there => Block.reads ?_
    exact discrete_of_mem_blocksOf (v := .table root) discrete (List.mem_filter.mp there).1
  refine reads.statements? ?_
  rw [render_eq]
  refine head?_joined (by decide) fun piece there => ?_
  obtain ⟨b, _, rfl⟩ := List.mem_map.mp there
  exact b.head?_text

end CompileDesk.Toml
