import CompileDesk.Files.Tree
import CompileDesk.Text.Utf8

/-! # Operations on files

Reading, writing, making folders and removing take paths. A failed operation changes nothing; making a
folder together with those that lead to it stops at the first that cannot be made.
-/

namespace CompileDesk.FileTree

/-- The bytes of a file. What the programs of the system consist of is not known. -/
def readBytes (t : FileTree) (path : String) : Except IoError ByteArray :=
  (t.find path).bind fun
    | (_, .file content _) => .ok content
    | (_, .folder) => .error .isAFolder
    | (_, _) => .ok .empty

/-- The text of a file, which must be UTF-8. -/
def readText (t : FileTree) (path : String) : Except IoError String :=
  (t.readBytes path).bind fun bytes =>
    match Text.strict? bytes with
    | some text => .ok text
    | none => .error .invalidUtf8

/-- Where writing to a path goes, and what is there. A path that ends in a slash is taken for a folder,
whatever is there. -/
def writing (t : FileTree) (path : String) : Except IoError (Place × Option Entry) :=
  (t.goal path).bind fun g =>
    match g.name, g.slash with
    | some name, false =>
      (t.named g.folder name).bind fun
        | some .folder => .error .isAFolder
        | entry => .ok (g.place, entry)
    | _, _ => .error .isAFolder

def writeBytes (t : FileTree) (path : String) (bytes : ByteArray) : Except IoError FileTree :=
  (t.writing path).map fun
    | (place, some (.file _ executable)) => t.put place (.file bytes executable)
    | (_, some .device) => t
    | (place, _) => t.put place (.file bytes false)

def writeText (t : FileTree) (path text : String) : Except IoError FileTree :=
  t.writeBytes path (Text.bytesOf text)

/-- Opens a file for writing at its end; a missing one is made. -/
def openToAppend (t : FileTree) (path : String) : Except IoError FileTree :=
  (t.writing path).map fun
    | (place, none) => t.put place (.file .empty false)
    | (_, some _) => t

/-- Makes a file executable, or no longer. -/
def setExecutable (executable : Bool) (t : FileTree) (path : String) : Except IoError FileTree :=
  (t.find path).map fun
    | (place, .file content _) => t.put place (.file content executable)
    | _ => t

def remove (t : FileTree) (path : String) : Except IoError FileTree :=
  (t.find path).map fun (place, _) => t.erase place

def namesIn (t : FileTree) (path : String) : List String :=
  match t.find path with
  | .ok (place, .folder) =>
    (t.entries.filterMap fun (p, _) =>
      match p.getLast? with
      | some name => if p.dropLast = place && p ≠ place then some name else none
      | none => none).mergeSort
  | _ => []

/-- Takes away a folder that is empty. -/
def removeFolder (t : FileTree) (path : String) : Except IoError FileTree :=
  (t.find path).bind fun
    | (place, .folder) =>
      if (t.namesIn path).isEmpty then .ok (t.erase place) else .error (.other "Directory not empty")
    | _ => .error .notAFolder

def makeFolder (t : FileTree) (path : String) : Except IoError FileTree :=
  (t.goal path).bind fun g =>
    match g.name with
    | none => .error .alreadyExists
    | some name =>
      (t.named g.folder name).bind fun
        | some _ => .error .alreadyExists
        | none => .ok (t.put g.place .folder)

/-- Makes a folder and the folders that lead to it. The fuel bounds the parts of the path. -/
def makeFoldersGo : Nat → FileTree → String → Except IoError FileTree
  | 0, t, _ => .ok t
  | fuel + 1, t, path =>
    if path.isEmpty then .ok t
    else
      let settle (t : FileTree) : Except IoError FileTree :=
        match t.makeFolder path with
        | .ok t => .ok t
        | .error e => if t.isFolder path then .ok t else .error e
      match t.makeFolder path with
      | .error .notFound =>
        match Path.parent? path with
        | some parent => (makeFoldersGo fuel t parent).bind settle
        | none => .error (.other "failed to create whole tree")
      | _ => settle t

/-- Makes a folder and the folders that lead to it; those that are there already stay. -/
def makeFolders (t : FileTree) (path : String) : Except IoError FileTree :=
  makeFoldersGo (path.length + 1) t path

def makeParent (t : FileTree) (path : String) : Except IoError FileTree :=
  match Path.parent? path with
  | some parent => t.makeFolders parent
  | none => .ok t

end CompileDesk.FileTree
