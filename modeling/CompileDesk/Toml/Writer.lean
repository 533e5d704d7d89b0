import CompileDesk.Toml.Quoted
import CompileDesk.Toml.Value

/-! # Writing TOML text

A document is written as sections with an empty line between them: first the plain entries of the root,
then one section for each table and for each element of an array of tables, under its header. A
table that holds only further tables needs no header. An array whose items are all tables is an array
of tables; tables inside any other array are written inline. All entries come in the order of their
keys, but those with sections of their own after the others.
-/

namespace CompileDesk.Toml

def joinedWith (sep : List Char) : List (List Char) → List Char
  | [] => []
  | [piece] => piece
  | piece :: rest => piece ++ sep ++ joinedWith sep rest

/-- An array of tables: there are items, and all of them are tables. -/
def isTableArray : Toml → Bool
  | .array items => !items.isEmpty && items.all isTable
  | _ => false

mutual

/-- A value on one line, its strings aside. -/
def inline : Toml → List Char
  | .string s => quotedValue s
  | .integer n => (Text.ofInt n).toList
  | .real x => x.text
  | .boolean b => (if b then "true" else "false").toList
  | .moment m => m.text
  | .array items => '[' :: (joinedWith [',', ' '] (inlineItems items) ++ [']'])
  | .table entries =>
    if entries.isEmpty then ['\x7b', '\x7d']
    else '\x7b' :: ' ' :: (joinedWith [',', ' '] (inlineEntries entries) ++ [' ', '\x7d'])

def inlineItems : List Toml → List (List Char)
  | [] => []
  | v :: rest => inline v :: inlineItems rest

def inlineEntries : List (String × Toml) → List (List Char)
  | [] => []
  | (key, v) :: rest => (quotedKey key ++ [' ', '=', ' '] ++ inline v) :: inlineEntries rest

end

/-- A section: the plain entries of a table under its header. -/
structure Section where
  path : List String
  element : Bool
  body : List Char
  hasChildren : Bool

/-- The header of a section; the root has none. -/
def Section.header (s : Section) : List Char :=
  let name := joinedWith ['.'] (s.path.map quotedKey)
  if s.path.isEmpty then []
  else if s.element then '[' :: '[' :: (name ++ [']', ']', '\n'])
  else '[' :: (name ++ [']', '\n'])

/-- Whether a section is written: one for an element always, the root only with entries, and a table
unless it holds tables only. -/
def Section.isWritten (s : Section) : Bool :=
  if s.path.isEmpty then !s.body.isEmpty
  else s.element || !s.body.isEmpty || !s.hasChildren

def entryLine (key : String) (v : Toml) : List Char :=
  quotedKey key ++ [' ', '=', ' '] ++ inline v ++ ['\n']

/-- An entry that gets sections of its own. -/
def isSectioned (v : Toml) : Bool := isTable v || isTableArray v

def plainLines (entries : Table) : List Char :=
  (entries.filter fun e => !isSectioned e.2).flatMap fun e => entryLine e.1 e.2

def ownSection (path : List String) (element : Bool) (entries : Table) : Section :=
  ⟨path, element, plainLines entries, entries.any (isSectioned ·.2)⟩

mutual

def sectionsOf (path : List String) : Toml → List Section
  | .table entries => ownSection path false entries :: childSections path entries
  | .array items => elementSections path items
  | _ => []

def childSections (path : List String) : List (String × Toml) → List Section
  | [] => []
  | (key, v) :: rest =>
    (if isSectioned v then sectionsOf (path ++ [key]) v else []) ++ childSections path rest

def elementSections (path : List String) : List Toml → List Section
  | [] => []
  | .table entries :: rest =>
    ownSection path true entries :: childSections path entries ++ elementSections path rest
  | _ :: rest => elementSections path rest

end

def documentSections (root : Table) : List Section := sectionsOf [] (.table root)

def render (root : Table) : String :=
  String.ofList (joinedWith ['\n'] (((documentSections root).filter Section.isWritten).map fun s =>
    s.header ++ s.body))

end CompileDesk.Toml
