/-! # Blank characters, trimming and splitting

A character is blank when it has the Unicode property `White_Space`. Every place of the program
that trims, tests for blankness or splits at blanks uses this one class, so that a non-breaking
space counts like a space. Lists of characters are the form that is computed with; the `String`
versions beside them only convert.
-/

namespace CompileDesk.Text

/-- The 25 characters of the property `White_Space`. -/
def isBlank (c : Char) : Bool :=
  (9 ≤ c.val && c.val ≤ 13) || c.val == 0x20 || c.val == 0x85 || c.val == 0xA0 ||
  c.val == 0x1680 || (0x2000 ≤ c.val && c.val ≤ 0x200A) || c.val == 0x2028 || c.val == 0x2029 ||
  c.val == 0x202F || c.val == 0x205F || c.val == 0x3000

def trimStart (s : List Char) : List Char := s.dropWhile isBlank

def trimEnd (s : List Char) : List Char := (s.reverse.dropWhile isBlank).reverse

def trim (s : List Char) : List Char := trimEnd (trimStart s)

/-- The text without the blanks at both ends. -/
def trimmed (s : String) : String := String.ofList (trim s.toList)

/-- The text without the blanks at its end. -/
def trimmedEnd (s : String) : String := String.ofList (trimEnd s.toList)

/-- A text of blanks only; the empty text is one. -/
def blank (s : String) : Bool := s.toList.all isBlank

/-- Splits at every maximal run of characters in the class, leaving out empty pieces. -/
def fieldsGo (sep : Char → Bool) : List Char → List Char → List (List Char)
  | [], word => if word.isEmpty then [] else [word.reverse]
  | c :: rest, word =>
    if sep c then
      if word.isEmpty then fieldsGo sep rest [] else word.reverse :: fieldsGo sep rest []
    else fieldsGo sep rest (c :: word)

/-- The words of a text: its maximal runs of characters that are not blank. -/
def words (s : List Char) : List (List Char) := fieldsGo isBlank s []

/-- The pieces between line feeds, each with the line feed that ends it. -/
def segmentsGo : List Char → List Char → List (List Char × Bool)
  | [], [] => []
  | [], line => [(line.reverse, false)]
  | '\n' :: rest, line => (line.reverse, true) :: segmentsGo rest []
  | c :: rest, line => segmentsGo rest (c :: line)

def dropReturn (line : List Char) : List Char :=
  match line.reverse with
  | '\r' :: kept => kept.reverse
  | _ => line

/-- The lines of a text. A line ends with a line feed, and a carriage return right before that
line feed belongs to the line end; a last line without a line feed keeps its carriage return. -/
def lines (s : List Char) : List (List Char) :=
  (segmentsGo s []).map fun (line, ended) => if ended then dropReturn line else line

def linesOf (s : String) : List String := (lines s.toList).map String.ofList

/-- The text after the given opening, when it starts with it. -/
def afterOpening : List Char → List Char → Option (List Char)
  | [], rest => some rest
  | c :: opening, d :: rest => if c == d then afterOpening opening rest else none
  | _ :: _, [] => none

@[simp] theorem afterOpening_append (opening rest : List Char) :
    afterOpening opening (opening ++ rest) = some rest := by
  induction opening with
  | nil => rfl
  | cons c opening ih => simp [afterOpening, ih]

/-- Splits at the first occurrence of the separator. -/
def splitOnce (sep : List Char) : List Char → Option (List Char × List Char)
  | [] => if sep.isEmpty then some ([], []) else none
  | c :: rest =>
    match afterOpening sep (c :: rest) with
    | some after => some ([], after)
    | none => (splitOnce sep rest).map fun (before, after) => (c :: before, after)

/-- The pieces between the occurrences of a character; there is one more than occurrences. -/
def pieces (sep : Char) : List Char → List (List Char)
  | [] => [[]]
  | c :: rest =>
    if c == sep then [] :: pieces sep rest
    else match pieces sep rest with
      | [] => [[c]]
      | piece :: more => (c :: piece) :: more

def startsWith (s opening : String) : Bool := opening.toList.isPrefixOf s.toList

def repeated (n : Nat) (c : Char) : String := String.ofList (List.replicate n c)

def width (s : String) : Nat := s.toList.length

def joined (sep : String) : List String → String
  | [] => ""
  | [s] => s
  | s :: rest => s ++ sep ++ joined sep rest

end CompileDesk.Text
