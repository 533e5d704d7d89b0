import CompileDesk.Files.Entry
import CompileDesk.Files.Error
import CompileDesk.Files.Path

/-! # Trees of files

A tree of files is a finite map from places to entries, on top of what is on every system. A path is
followed name by name, so that a name on the way has to be a folder. Where a path ends, its last name need
not be there.
-/

namespace CompileDesk

structure FileTree where
  entries : List (Place × Entry) := []

namespace FileTree

def get? (t : FileTree) (place : Place) : Option Entry :=
  (t.entries.lookup place).or (Entry.onEverySystem place)

def putGo (place : Place) (entry : Entry) : List (Place × Entry) → List (Place × Entry)
  | [] => [(place, entry)]
  | (p, e) :: rest =>
    if p = place then (place, entry) :: rest else (p, e) :: putGo place entry rest

def put (t : FileTree) (place : Place) (entry : Entry) : FileTree :=
  ⟨putGo place entry t.entries⟩

def erase (t : FileTree) (place : Place) : FileTree :=
  ⟨t.entries.filter fun e => !place.isPrefixOf e.1⟩

private theorem lookup_putGo_self (place : Place) (entry : Entry) :
    ∀ es : List (Place × Entry), (putGo place entry es).lookup place = some entry
  | [] => by simp [putGo]
  | (p, e) :: rest => by
    unfold putGo
    split
    · simp
    · next h =>
      rw [List.lookup_cons, beq_eq_false_iff_ne.2 fun h' => h h'.symm]
      exact lookup_putGo_self place entry rest

private theorem lookup_putGo_of_ne {place other : Place} (h : other ≠ place) (entry : Entry) :
    ∀ es : List (Place × Entry), (putGo place entry es).lookup other = es.lookup other
  | [] => by simp [putGo, List.lookup_cons, beq_eq_false_iff_ne.2 h]
  | (p, e) :: rest => by
    unfold putGo
    split
    · next h' => rw [List.lookup_cons, List.lookup_cons, h', beq_eq_false_iff_ne.2 h]
    · rw [List.lookup_cons, List.lookup_cons, lookup_putGo_of_ne h entry rest]

@[simp] theorem get?_put_self (t : FileTree) (place : Place) (entry : Entry) :
    (t.put place entry).get? place = some entry := by
  simp [get?, put, lookup_putGo_self]

theorem get?_put_of_ne (t : FileTree) {place other : Place} (h : other ≠ place) (entry : Entry) :
    (t.put place entry).get? other = t.get? other := by
  simp [get?, put, lookup_putGo_of_ne h]

/-! ## Following paths -/

def longestName : Nat := 255

def longestPath : Nat := 4095

def named (t : FileTree) (folder : Place) (name : String) : Except IoError (Option Entry) :=
  if longestName < name.utf8ByteSize then .error .nameTooLong else .ok (t.get? (folder ++ [name]))

def enter (t : FileTree) (here : Place) (part : String) : Except IoError Place :=
  if part == "" || part == "." then .ok here
  else if part == ".." then .ok here.above
  else
    match t.named here part with
    | .error e => .error e
    | .ok (some .folder) => .ok (here ++ [part])
    | .ok (some _) => .error .notAFolder
    | .ok none => .error .notFound

/-- The end of a path: the folder that it leads to, a name in that folder, and whether a slash comes after
the name. There is no name when the path leads to the folder itself. -/
structure Goal where
  folder : Place
  name : Option String
  slash : Bool

namespace Goal

def place (g : Goal) : Place := g.folder ++ g.name.toList

end Goal

/-- Follows a path up to its last name. The empty path leads nowhere. -/
def goal (t : FileTree) (path : String) : Except IoError Goal :=
  if path.toList.contains '\x00' then .error .nulInPath
  else if path.isEmpty then .error .notFound
  else if longestPath < path.utf8ByteSize then .error .nameTooLong
  else
    let start := if Path.isAbsolute path then Place.root else []
    let parts := (Path.rawParts path).reverse
    match parts.dropWhile (· == "") with
    | [] => .ok ⟨start, none, true⟩
    | last :: before =>
      (before.reverse.foldlM t.enter start).bind fun folder =>
        if last == "." || last == ".." then (t.enter folder last).map fun folder => ⟨folder, none, true⟩
        else .ok ⟨folder, some last, parts.head? == some ""⟩

/-- What is at the end of a path. A slash after a name asks for a folder. -/
def find (t : FileTree) (path : String) : Except IoError (Place × Entry) :=
  (t.goal path).bind fun g =>
    match g.name with
    | none => .ok (g.place, .folder)
    | some name =>
      (t.named g.folder name).bind fun
        | none => .error .notFound
        | some .folder => .ok (g.place, .folder)
        | some entry => if g.slash then .error .notAFolder else .ok (g.place, entry)

/-- What is at a path, if it leads anywhere. -/
def at? (t : FileTree) (path : String) : Option Entry := (t.find path).toOption.map Prod.snd

def pathExists (t : FileTree) (path : String) : Bool := (t.at? path).isSome

def isFile (t : FileTree) (path : String) : Bool :=
  match t.at? path with
  | some (.file _ _) | some (.program _) => true
  | _ => false

def isFolder (t : FileTree) (path : String) : Bool :=
  match t.at? path with
  | some .folder => true
  | _ => false

end FileTree
end CompileDesk
