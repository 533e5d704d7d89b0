import CompileDesk.Proofs.Toml.Documents

/-! # Tables that only a path leads to

A header and a dotted key below it lead to a value through tables of which no one has another entry.
Each of the two may have as many parts as the reader allows for one path, so that the tables are up to
twice as deep as one header can name.
-/

namespace CompileDesk.Toml

/-- A table below a path of tables with one entry each. -/
def tablesBelow : List String → Table → Table
  | [], t => t
  | key :: path, t => [(key, .table (tablesBelow path t))]

/-- A table under construction below a path of tables that came about in one way. -/
def nodesBelow (origin : Origin) : List String → Nodes → Nodes
  | [], inner => inner
  | key :: path, inner => [(key, .table origin (nodesBelow origin path inner))]

theorem tablesBelow_append (path path' : List String) (t : Table) :
    tablesBelow (path ++ path') t = tablesBelow path (tablesBelow path' t) := by
  induction path with
  | nil => rfl
  | cons key path ih => rw [List.cons_append, tablesBelow, tablesBelow, ih]

theorem finishEntries_nodesBelow (origin : Origin) (path : List String) (inner : Nodes) :
    finishEntries (nodesBelow origin path inner) [] = tablesBelow path (finishEntries inner []) := by
  induction path with
  | nil => rfl
  | cons key path ih =>
    rw [nodesBelow, finishEntries, Node.finish, ih, finishEntries]
    rfl

theorem leads_nodesBelow (path : List String) : Leads path [] [] (nodesBelow .implicit path) := by
  intro f
  induction path with
  | nil => simp [nodesBelow]
  | cons key path ih =>
    rw [changeOpened_cons, ih]
    simp [nodesBelow, setNode, Function.comp_def]

/-- A change where nothing is yet makes all tables on the way in the same way. -/
theorem changeAt_missing {made : Origin} {change : Origin → Nodes → Option (Origin × Nodes)}
    (inner : Nodes) (changed : change made [] = some (made, inner)) (path : List String) :
    changeAt made change path made [] = some (made, nodesBelow made path inner) := by
  induction path with
  | nil => exact changed
  | cons key path ih =>
    rw [changeAt]
    simp [ih, nodesBelow, setNode]

theorem bind?_missing (path : List String) (key : String) (v : Toml) :
    bind? path key v [] = some (nodesBelow .dotted path [(key, .value v)]) := by
  cases path with
  | nil => exact bind?_nil List.not_mem_nil v
  | cons first path =>
    rw [bind?, changeAt, List.lookup_nil]
    simp only
    rw [changeAt_missing [(key, .value v)] rfl path]
    rfl

def headedLine (path : List String) (key : String) (path' : List String) (last : String) (v : Toml) :
    String :=
  String.ofList (
    '[' :: (joinedWith ['.'] ((path ++ [key]).map quotedKey) ++ [']', '\n']) ++
    (joinedWith ['.'] ((path' ++ [last]).map quotedKey) ++ ' ' :: '=' :: ' ' :: (inline v ++ ['\n'])))

theorem statements?_headedLine (path : List String) (key : String) (path' : List String)
    (last : String) {v : Toml} (discrete : isDiscrete v) (shallow : nesting v ≤ depthLimit) :
    statements? (headedLine path key path' last v) =
      some [.header (keyOf path key), .binding (keyOf path' last) (formOf v)] := by
  have reads := (Reads.header path key).append (Reads.binding path' last discrete)
  rw [bindingOf, if_pos shallow, ← String.toList_ofList (l := _ ++ _)] at reads
  rw [headedLine, reads.statements? (by simp)]
  rfl

/-- A header and a dotted key lead to a value below all tables that they name. -/
theorem parse_headedLine {path path' : List String} (short : path.length < pathLimit)
    (short' : path'.length < pathLimit) (key last : String) {v : Toml} (discrete : isDiscrete v)
    (order : InOrder v) (shallow : nesting v ≤ depthLimit) :
    parse (headedLine path key path' last v) =
      .ok (tablesBelow (path ++ key :: path') [(last, v)]) := by
  have header : Draft.add ⟨[], []⟩ (.header (keyOf path key)) =
      .ok ⟨nodesBelow .implicit path ([] ++ [(key, .table .header [])]), path ++ [key]⟩ :=
    add_header (leads_nodesBelow path) List.not_mem_nil short []
  have leads := ((leads_nodesBelow path).after ([] ++ [(key, .table .header [])])).to_table
    List.not_mem_nil
  have bound := leads (bind? path' last v)
  rw [bind?_missing, Option.map_some] at bound
  rw [parse, statements?_headedLine path key path' last discrete shallow]
  change (List.foldlM Draft.add ⟨[], []⟩ _).map _ = _
  rw [List.foldlM_cons, header]
  change (List.foldlM Draft.add ⟨_, _⟩ _).map _ = _
  rw [List.foldlM_cons, Draft.add, keyOf_names, formOf_value v discrete order]
  simp only [Except.bind, bound, along_of_lt short', wellFormed, Except.map]
  change Except.ok _ = _
  rw [finishEntries_nodesBelow, List.nil_append, finishEntries, Node.finish,
    finishEntries_nodesBelow, tablesBelow_append]
  rfl

end CompileDesk.Toml
