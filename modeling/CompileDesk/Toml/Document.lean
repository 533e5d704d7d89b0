import CompileDesk.Toml.Value

/-! # Building a TOML document

The statements of a document build up its tables. A table remembers how it came about: by a header
of its own, implicitly by a longer header, or by a dotted key. A header may complete an implicit
table but no other. A dotted key may extend any table without a header, and an implicit one that it
extends counts as made by it. A table or array that was written as a value is closed. No key is
bound twice.
-/

namespace CompileDesk.Toml

inductive Origin where
  | header
  | implicit
  | dotted
  deriving DecidableEq, Repr

/-- What a key is bound to while a document is being built. -/
inductive Node where
  | value (value : Toml)
  | table (origin : Origin) (entries : List (String × Node))
  | tables (elements : List (List (String × Node)))

/-- The entries of a table under construction, in the order in which they were written. -/
abbrev Nodes := List (String × Node)

/-- Rebinds a key that is bound, or binds it at the end. -/
def setNode (key : String) (node : Node) : Nodes → Nodes
  | [] => [(key, node)]
  | (k, n) :: rest => if k = key then (key, node) :: rest else (k, n) :: setNode key node rest

def changeLast (f : Nodes → Option Nodes) : List Nodes → Option (List Nodes)
  | [] => none
  | [entries] => (f entries).map ([·])
  | entries :: rest => (changeLast f rest).map (entries :: ·)

/-- Changes the table at the end of a path, and perhaps how it came about. Tables that are missing on the
way are made with the given origin. A dotted key does not lead through a table with a header. -/
def changeAt (made : Origin) (change : Origin → Nodes → Option (Origin × Nodes)) :
    List String → Origin → Nodes → Option (Origin × Nodes)
  | [], origin, entries => change origin entries
  | key :: path, origin, entries =>
    match entries.lookup key with
    | none =>
      (changeAt made change path made []).map fun (o, inner) =>
        (origin, setNode key (.table o inner) entries)
    | some (.value _) => none
    | some (.table o inner) =>
      if made = .dotted && o = .header then none
      else (changeAt made change path o inner).map fun (o, inner) =>
        (origin, setNode key (.table o inner) entries)
    | some (.tables elements) =>
      let changed := changeLast (fun inner => (changeAt made change path .header inner).map (·.2))
      (changed elements).map fun elements => (origin, setNode key (.tables elements) entries)

/-- Binds the last key of a path below a table; the keys before it are dotted, and so is then the table
that the last of them names. -/
def bind? (path : List String) (key : String) (value : Toml) (entries : Nodes) : Option Nodes :=
  (changeAt .dotted (fun origin inner =>
    if (!path.isEmpty && origin = .header) || (inner.lookup key).isSome then none
    else some (if path.isEmpty then origin else .dotted, inner ++ [(key, .value value)]))
    path .header entries).map (·.2)

def openTable? (path : List String) (key : String) (entries : Nodes) : Option Nodes :=
  (changeAt .implicit (fun origin inner =>
    match inner.lookup key with
    | none => some (origin, inner ++ [(key, .table .header [])])
    | some (.table .implicit content) => some (origin, setNode key (.table .header content) inner)
    | some _ => none) path .header entries).map (·.2)

/-- Opens a further element of the array of tables that a header names. -/
def openElement? (path : List String) (key : String) (entries : Nodes) : Option Nodes :=
  (changeAt .implicit (fun origin inner =>
    match inner.lookup key with
    | none => some (origin, inner ++ [(key, .tables [[]])])
    | some (.tables elements) => some (origin, setNode key (.tables (elements ++ [[]])) inner)
    | some _ => none) path .header entries).map (·.2)

def changeOpened (header : List String) (f : Nodes → Option Nodes) (entries : Nodes) :
    Option Nodes :=
  (changeAt .implicit (fun origin inner => (f inner).map fun inner => (origin, inner)) header .header
    entries).map (·.2)

mutual

def Node.finish : Node → Toml
  | .value v => v
  | .table _ entries => .table (finishEntries entries [])
  | .tables elements => .array (finishElements elements)

/-- The finished table of some entries, added to those already finished. -/
def finishEntries : List (String × Node) → Table → Table
  | [], done => done
  | (key, node) :: rest, done => finishEntries rest (insert key node.finish done)

def finishElements : List (List (String × Node)) → List Toml
  | [] => []
  | entries :: rest => .table (finishEntries entries []) :: finishElements rest

end

end CompileDesk.Toml
