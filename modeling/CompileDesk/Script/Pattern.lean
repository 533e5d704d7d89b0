import CompileDesk.Text.Blank

/-! # Patterns

A pattern matches texts. A star stands for any text, a question mark for any character, and brackets for one of
several characters; quoted characters stand for themselves. Matching a pattern of characters that all stand for
themselves is equality (`isMatch_literally`).
-/

namespace CompileDesk.Script

abbrev Marked := Char × Bool

/-- A part of a pattern. The ranges of a class have a first and a last character. -/
inductive PatternPart where
  | single (c : Char)
  | anyCharacter
  | anyText
  | oneOf (negated : Bool) (ranges : List (Char × Char))
  deriving DecidableEq, Repr

abbrev Pattern := List PatternPart

namespace PatternPart

def admits (p : PatternPart) (c : Char) : Bool :=
  match p with
  | single d => c == d
  | anyCharacter => true
  | anyText => false
  | oneOf negated ranges => (ranges.any fun r => r.1 ≤ c && c ≤ r.2) != negated

end PatternPart

namespace Pattern

def literally (s : List Char) : Pattern := s.map .single

/-- The ranges between brackets, up to the closing one, and what comes after it. A bracket that comes first
is one of the characters. -/
def ranges : Bool → List Marked → Option (List (Char × Char) × List Marked)
  | _, [] => none
  | isFirst, (c, quoted) :: rest =>
    if c == ']' && !quoted && !isFirst then some ([], rest)
    else
      match rest with
      | ('-', false) :: (d, q) :: more =>
        if d == ']' && !q then
          (ranges false (('-', false) :: (d, q) :: more)).map fun (rs, after) => ((c, c) :: rs, after)
        else (ranges false more).map fun (rs, after) => ((c, d) :: rs, after)
      | others => (ranges false others).map fun (rs, after) => ((c, c) :: rs, after)
termination_by _ s => s.length

def bracketed (s : List Marked) : Option (PatternPart × List Marked) :=
  match s with
  | ('!', false) :: rest | ('^', false) :: rest =>
    (ranges true rest).map fun (rs, after) => (.oneOf true rs, after)
  | _ => (ranges true s).map fun (rs, after) => (.oneOf false rs, after)

/-- The pattern that a word stands for. The fuel is the number of its characters. -/
def ofMarkedGo : Nat → List Marked → Pattern
  | 0, _ => []
  | _, [] => []
  | fuel + 1, (c, quoted) :: rest =>
    if quoted then .single c :: ofMarkedGo fuel rest
    else if c == '*' then .anyText :: ofMarkedGo fuel rest
    else if c == '?' then .anyCharacter :: ofMarkedGo fuel rest
    else if c == '[' then
      match bracketed rest with
      | some (part, after) => part :: ofMarkedGo fuel after
      | none => .single c :: ofMarkedGo fuel rest
    else .single c :: ofMarkedGo fuel rest

def ofMarked (s : List Marked) : Pattern := ofMarkedGo s.length s

def isMatch : Pattern → List Char → Bool
  | [], [] => true
  | [], _ :: _ => false
  | .anyText :: ps, [] => isMatch ps []
  | .anyText :: ps, c :: s => isMatch ps (c :: s) || isMatch (.anyText :: ps) s
  | _ :: _, [] => false
  | p :: ps, c :: s => p.admits c && isMatch ps s
termination_by ps s => ps.length + s.length

theorem isMatch_literally (s t : List Char) : isMatch (literally s) t = true ↔ t = s := by
  induction s generalizing t with
  | nil => cases t <;> simp [literally, isMatch]
  | cons c s ih =>
    cases t with
    | nil => simp [literally, isMatch]
    | cons d t =>
      have h := ih t
      simp only [literally] at h
      simp [literally, isMatch, PatternPart.admits, h]

/-- The fronts of a text from short to long, each with what is left. -/
def fronts : List Char → List (List Char × List Char)
  | [] => [([], [])]
  | c :: rest => ([], c :: rest) :: (fronts rest).map fun (front, left) => (c :: front, left)

/-- A text without a front that the pattern matches, the longest or the shortest. -/
def withoutStart (longest : Bool) (p : Pattern) (s : List Char) : List Char :=
  let found := (fronts s).filter fun cut => p.isMatch cut.1
  ((if longest then found.getLast? else found.head?).map Prod.snd).getD s

/-- A text without an end that the pattern matches, the longest or the shortest. -/
def withoutEnd (longest : Bool) (p : Pattern) (s : List Char) : List Char :=
  let found := (fronts s).filter fun cut => p.isMatch cut.2
  ((if longest then found.head? else found.getLast?).map Prod.fst).getD s

end Pattern
end CompileDesk.Script
