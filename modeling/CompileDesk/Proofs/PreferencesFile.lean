import CompileDesk.Proofs.FileWrites
import CompileDesk.Proofs.Toml.Order
import CompileDesk.Proofs.Toml.Paths
import CompileDesk.Theme.Preferences

/-! # Setting a preference keeps the others

Setting a preference reads all values of the file, binds one key to a text, and writes all values anew.
What is read afterwards is the table with the key bound, as long as the document that is written
stays within the limits of the reader. A document can be beyond them though its table was read: a
table that a header and a dotted key lead to is written under one longer header.
-/

namespace CompileDesk.Toml

variable {t : Table} {v : Toml}

/-! ## Binding a key to a value without a section -/

theorem haveDiscrete_insert (discrete : haveDiscrete t) (value : isDiscrete v) (key : String) :
    haveDiscrete (insert key v t) := by
  refine haveDiscrete_iff.mpr fun e there => ?_
  obtain rfl | there := mem_insert there
  · exact value
  · exact haveDiscrete_iff.mp discrete e there

theorem allIntegersOf_insert {p : Int → Bool} (all : allIntegersOf p t) (value : allIntegers p v)
    (key : String) : allIntegersOf p (insert key v t) := by
  refine allIntegersOf_iff.mpr fun e there => ?_
  obtain rfl | there := mem_insert there
  · exact value
  · exact allIntegersOf_iff.mp all e there

theorem InOrder.insert (order : InOrder (.table t)) (value : InOrder v) (key : String) :
    InOrder (.table (insert key v t)) :=
  ⟨order.1.insert key v, order.2.insert value key⟩

theorem mem_childBlocks_insert {b : Block} {path : List String} {key : String}
    (plain : ¬ isSectioned v) (there : b ∈ childBlocks path (insert key v t)) :
    b ∈ childBlocks path t := by
  induction t with
  | nil => simp [insert, childBlocks, plain] at there
  | cons e t ih =>
    obtain ⟨k, w⟩ := e
    rw [insert] at there
    rw [childBlocks]
    split at there
    -- the value that is replaced may have had blocks, the new one has none
    · rw [childBlocks, if_neg plain] at there
      exact List.mem_append_right _ there
    · split at there
      · rwa [childBlocks, if_neg plain, List.nil_append, childBlocks] at there
      · rw [childBlocks] at there
        obtain first | others := List.mem_append.mp there
        · exact List.mem_append_left _ first
        · exact List.mem_append_right _ (ih others)

theorem Readable.of_mem_plainOf (readable : Readable t) :
    ∀ e ∈ plainOf t, nesting e.2 ≤ depthLimit := by
  intro e there
  have written : (Block.mk [] false t).isWritten := by
    by_contra unwritten
    have none := Block.lines_of_not_isWritten unwritten
    rw [linesOf, List.map_eq_nil_iff] at none
    rw [none] at there
    cases there
  refine (readable ⟨[], false, t⟩ (List.mem_filter.mpr ⟨?_, written⟩)).2 e there
  rw [blocksOf]
  exact List.mem_cons_self

/-- A document that can be read can be read with one more line. -/
theorem Readable.insert (readable : Readable t) (plain : ¬ isSectioned v)
    (shallow : nesting v ≤ depthLimit) (key : String) : Readable (insert key v t) := by
  intro b there
  obtain ⟨there, written⟩ := List.mem_filter.mp there
  rw [blocksOf] at there
  obtain rfl | inside := List.mem_cons.mp there
  · refine ⟨Nat.zero_le _, fun e there => ?_⟩
    obtain ⟨there, line⟩ := List.mem_filter.mp there
    obtain rfl | there := mem_insert there
    · exact shallow
    · exact readable.of_mem_plainOf e (List.mem_filter.mpr ⟨there, line⟩)
  · refine readable b (List.mem_filter.mpr ⟨?_, written⟩)
    rw [blocksOf]
    exact List.mem_cons_of_mem _ (mem_childBlocks_insert plain inside)

end CompileDesk.Toml

namespace CompileDesk.Preferences

open Toml

variable {path : String} {t t' : FileTree} {table : Table}

/-! ## Reading what was written -/

/-- What the text of a preferences file is decoded to. -/
theorem ofText_iff {text : String} :
    ofText path text = .ok table ↔ parse text = .ok table ∧ isReadable table := by
  unfold ofText
  cases parsed : parse text with
  | error fault => simp [Except.bind]
  | ok found =>
    cases fits : isReadable found with
    | false =>
      simp only [Except.bind, Option.filter, fits, wellFormed]
      constructor
      · intro same
        cases same
      · rintro ⟨same, fits'⟩
        cases same
        cases fits.symm.trans fits'
    | true =>
      simp only [Except.bind, Option.filter, fits, if_true, wellFormed]
      constructor
      · intro same
        cases same
        exact ⟨rfl, fits⟩
      · rintro ⟨same, -⟩
        cases same
        rfl

/-- The values of a preferences file are in order and its integers have at most 64 bits. -/
theorem readAll_eq_ok (read : readAll path t = .ok table) :
    InOrder (.table table) ∧ isReadable table := by
  unfold readAll at read
  split at read
  · split at read
    · cases read
    · obtain ⟨parsed, fits⟩ := ofText_iff.mp read
      exact ⟨parse_inOrder parsed, fits⟩
  · obtain rfl : [] = table := by simpa using read
    exact ⟨⟨.nil, trivial⟩, rfl⟩

/-- The document of some values is decoded if and only if it is within the limits of the reader, and
then to these values. -/
theorem ofText_render_iff (discrete : haveDiscrete table) (order : InOrder (.table table))
    (fits : isReadable table) {table' : Table} :
    ofText path (render table) = .ok table' ↔ Readable table ∧ table' = table := by
  rw [ofText_iff]
  constructor
  · rintro ⟨read, -⟩
    have readable := readable_of_parse_render discrete read
    rw [parse_render discrete order readable] at read
    exact ⟨readable, (Except.ok.inj read).symm⟩
  · rintro ⟨readable, rfl⟩
    exact ⟨parse_render discrete order readable, fits⟩

theorem readAll_of_writeAll (written : writeAll path table t = .ok t')
    (noDevice : t'.at? path ≠ some .device) : readAll path t' = ofText path (render table) := by
  unfold writeAll at written
  cases made : t.makeParent path with
  | error e =>
    rw [made] at written
    cases written
  | ok ready =>
    rw [made] at written
    obtain ⟨there, read⟩ := FileTree.readText_of_writeText written noDevice
    simp [readAll, there, read]

/-! ## Setting a text -/

theorem setInFile_of_error {e : DeskError} (failed : readAll path t = .error e) (key value : String) :
    setInFile path t key value = (.error e, t) := by
  simp [setInFile, failed]

theorem setInFile_of_ok {key value : String} (read : readAll path t = .ok table)
    (written : writeAll path (insert key (.string value) table) t = .ok t') :
    setInFile path t key value = (.ok (), t') := by
  simp [setInFile, read, written]

theorem get?_of_error {e : DeskError} (failed : readAll path t = .error e) (key : String) :
    (inFile path).get? t key = none := by
  simp [inFile, failed]

theorem get?_of_readAll {key value : String} (read : readAll path t = .ok table)
    (bound : table.lookup key = some (.string value)) : (inFile path).get? t key = some value := by
  simp [inFile, read, text?, bound]

/-- What a file is decoded to after a text was set in it. -/
theorem readAll_after_setting {key value : String} (read : readAll path t = .ok table)
    (discrete : haveDiscrete table)
    (written : writeAll path (insert key (.string value) table) t = .ok t')
    (noDevice : t'.at? path ≠ some .device) {found : Table} :
    readAll path t' = .ok found ↔
      Readable (insert key (.string value) table) ∧ found = insert key (.string value) table := by
  obtain ⟨order, fits⟩ := readAll_eq_ok read
  have order' : InOrder (.table (insert key (.string value) table)) :=
    order.insert (v := .string value) trivial key
  rw [readAll_of_writeAll written noDevice]
  exact ofText_render_iff (haveDiscrete_insert discrete rfl key) order'
    (allIntegersOf_insert fits rfl key)

/-- Beyond the limits of the reader nothing in the file can be read after a text was set in it. -/
theorem readAll_beyond_limits {key value : String} (read : readAll path t = .ok table)
    (discrete : haveDiscrete table)
    (written : writeAll path (insert key (.string value) table) t = .ok t')
    (noDevice : t'.at? path ≠ some .device)
    (beyond : ¬ Readable (insert key (.string value) table)) : ∃ e, readAll path t' = .error e := by
  cases result : readAll path t' with
  | error e => exact ⟨e, rfl⟩
  | ok found =>
    exact absurd ((readAll_after_setting read discrete written noDevice).mp result).1 beyond

/-- Setting a text in a file that cannot be decoded fails and leaves all files as they are. In any
other file it binds the key and keeps every other value, as long as the document with the key bound
is within the limits of the reader; it is so whenever the document without it is. Beyond the limits
the text is written all the same, and nothing can be read any more. -/
theorem setting_keeps_other_values (path : String) (t : FileTree) (key value : String) :
    (∀ e, readAll path t = .error e → setInFile path t key value = (.error e, t)) ∧
    ∀ {table table' : Table} {t' : FileTree}, readAll path t = .ok table → haveDiscrete table →
      table' = insert key (.string value) table → writeAll path table' t = .ok t' →
      t'.at? path ≠ some .device →
        setInFile path t key value = (.ok (), t') ∧
        (Readable table → Readable table') ∧
        (Readable table' → readAll path t' = .ok table' ∧
          (inFile path).get? t' key = some value ∧
          ∀ other, other ≠ key → table'.lookup other = table.lookup other) ∧
        (¬ Readable table' → ∃ e, readAll path t' = .error e) := by
  refine ⟨fun e failed => setInFile_of_error failed key value, ?_⟩
  rintro table _ t' read discrete rfl written noDevice
  refine ⟨setInFile_of_ok read written, fun readable => ?_, fun readable => ?_,
    readAll_beyond_limits read discrete written noDevice⟩
  · exact readable.insert (by simp [isSectioned, isTable, isTableArray]) (Nat.zero_le _) key
  · have kept := (readAll_after_setting read discrete written noDevice).mpr ⟨readable, rfl⟩
    exact ⟨kept, get?_of_readAll kept (lookup_insert_self ..), fun other different =>
      lookup_insert_of_ne different ..⟩

/-! ## A file with values of all kinds, and one that is too deep -/

/-- A tree with a preferences file of this text. -/
def holding (text : String) : FileTree := ⟨[(["p.toml"], .file (Text.bytesOf text) false)]⟩

theorem at?_holding (text : String) :
    (holding text).at? "p.toml" = some (.file (Text.bytesOf text) false) := rfl

theorem noDevice_holding (text : String) : (holding text).at? "p.toml" ≠ some .device := by
  rw [at?_holding]
  nofun

theorem readAll_holding (text : String) : readAll "p.toml" (holding text) = ofText "p.toml" text := by
  have written : FileTree.writeText {} "p.toml" text = .ok (holding text) := rfl
  obtain ⟨there, read⟩ := FileTree.readText_of_writeText written (noDevice_holding text)
  simp [readAll, there, read]

theorem writeAll_holding (text : String) (table : Table) :
    writeAll "p.toml" table (holding text) = .ok (holding (render table)) := rfl

/-- Values of all kinds, under keys with and without quotes. -/
def mixedValues : Table := [
  ("a.b", .string "\"x\"\n"),
  ("empty", .table []),
  ("nested", .table [("inner", .table [
    ("deep", .array [.integer 1, .array [], .table [("k", .boolean true)]])])]),
  ("rows", .array [.table [], .table [("n", .integer (-5))]]),
  ("theme", .string "light")]

theorem readable_mixedValues : Readable mixedValues := by
  unfold Readable
  decide +kernel

theorem readAll_mixedValues : readAll "p.toml" (holding (render mixedValues)) = .ok mixedValues := by
  have increasing : Increasing mixedValues := by
    unfold Increasing
    decide +kernel
  have order : InOrder (.table mixedValues) := by
    refine ⟨increasing, ?_⟩
    simp [mixedValues, InOrder, AllInOrder, EntriesInOrder, Increasing]
  rw [readAll_holding]
  exact (ofText_render_iff rfl order rfl).mpr ⟨readable_mixedValues, rfl⟩

/-- The theme is set among values of all kinds, and not set in a file that cannot be decoded. -/
theorem setting_keeps_mixed_values :
    (∃ e, readAll "p.toml" (holding "theme = [") = .error e ∧
      setInFile "p.toml" (holding "theme = [") "theme" "dark" = (.error e, holding "theme = [")) ∧
    let t := holding (render mixedValues)
    let values := insert "theme" (.string "dark") mixedValues
    readAll "p.toml" t = .ok mixedValues ∧
      setInFile "p.toml" t "theme" "dark" = (.ok (), holding (render values)) ∧
      readAll "p.toml" (holding (render values)) = .ok values ∧
      (inFile "p.toml").get? (holding (render values)) "theme" = some "dark" := by
  constructor
  · have fails : (readAll "p.toml" (holding "theme = [")).toOption.isNone := by decide +kernel
    cases failed : readAll "p.toml" (holding "theme = [") with
    | error e => exact ⟨e, rfl, (setting_keeps_other_values _ _ "theme" "dark").1 e failed⟩
    | ok table => simp [failed, Except.toOption] at fails
  · obtain ⟨set, stays, kept, -⟩ := (setting_keeps_other_values "p.toml" _ "theme" "dark").2
      readAll_mixedValues rfl rfl (writeAll_holding ..) (noDevice_holding _)
    obtain ⟨read, got, -⟩ := kept (stays readable_mixedValues)
    exact ⟨readAll_mixedValues, set, read, got⟩

/-- A path of tables that are all under one key. -/
def deepPath (n : Nat) : List String := List.replicate n "a"

/-- A value below 99 tables, to which a header and a dotted key of 50 parts each lead. -/
def deepText : String := headedLine (deepPath 49) "a" (deepPath 49) "a" (.integer 1)

/-- The value below the tables. -/
def deepValues : Table := tablesBelow (deepPath 49 ++ "a" :: deepPath 49) [("a", .integer 1)]

theorem readAll_deepText : readAll "p.toml" (holding deepText) = .ok deepValues := by
  have parsed : parse deepText = .ok deepValues :=
    parse_headedLine (by decide) (by decide) "a" "a" rfl trivial (Nat.zero_le _)
  have fits : isReadable deepValues := by decide +kernel
  rw [readAll_holding]
  exact ofText_iff.mpr ⟨parsed, fits⟩

/-- The file can be decoded, and the theme is set in it; but then it cannot be decoded any more, so
that neither the theme nor any other value is there. -/
theorem setting_loses_deep_values :
    readAll "p.toml" (holding deepText) = .ok deepValues ∧ haveDiscrete deepValues ∧
    ∃ t', setInFile "p.toml" (holding deepText) "theme" "dark" = (.ok (), t') ∧
      (∃ e, readAll "p.toml" t' = .error e) ∧ (inFile "p.toml").get? t' "theme" = none := by
  have discrete : haveDiscrete deepValues := by decide +kernel
  have beyond : ¬ Readable (insert "theme" (.string "dark") deepValues) := by
    unfold Readable
    decide +kernel
  have written := writeAll_holding deepText (insert "theme" (.string "dark") deepValues)
  obtain ⟨e, failed⟩ := readAll_beyond_limits readAll_deepText discrete written
    (noDevice_holding _) beyond
  exact ⟨readAll_deepText, discrete, _, setInFile_of_ok readAll_deepText written, ⟨e, failed⟩,
    get?_of_error failed "theme"⟩

end CompileDesk.Preferences
