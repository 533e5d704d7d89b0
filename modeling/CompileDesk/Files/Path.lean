import CompileDesk.Text.Blank

/-! # Paths

A path is a text whose parts are separated by slashes. Parts that are empty or a single dot are
passed over when a path is taken apart.
-/

namespace CompileDesk.Path

def rawParts (path : String) : List String :=
  (Text.pieces '/' path.toList).map String.ofList

def isAbsolute (path : String) : Bool := path.toList.head? == some '/'

def join (folder name : String) : String :=
  if isAbsolute name || folder.isEmpty then name
  else if folder.toList.getLast? == some '/' then folder ++ name
  else folder ++ "/" ++ name

/-- Whether a piece of a path says nothing: it is empty or a single dot. -/
def isIdle (part : List Char) : Bool := part.isEmpty || part == ['.']

/-- The pieces of a path in reverse, without those at its end that say nothing. -/
def reversedParts (path : String) : List (List Char) :=
  (Text.pieces '/' path.toList).reverse.dropWhile isIdle

def fileName? (path : String) : Option String :=
  match reversedParts path with
  | [] => none
  | last :: _ => if last == ['.', '.'] then none else some (String.ofList last)

/-- The path without its last part, and without what says nothing before it; `none` for a path without
parts. -/
def parent? (path : String) : Option String :=
  match reversedParts path with
  | [] => if path.isEmpty || isAbsolute path then none else some ""
  | _ :: before =>
    let kept := before.dropWhile isIdle
    if kept.isEmpty then some (if isAbsolute path then "/" else "")
    else some (String.ofList ((kept.reverse.intersperse ['/']).flatten))

end CompileDesk.Path
