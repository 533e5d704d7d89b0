import CompileDesk.Canvas.Follower

/-! # Widths of texts

The width of a text is the number of columns that it takes on a terminal. It is the sum of what each
character adds before what follows it, and need not be the sum of the widths of the characters.
-/

namespace CompileDesk.Canvas

/-- What was read of a text from the right: the columns, what the last character read has to its right, and
the form that it is asked for. -/
structure Reading where
  columns : Int := 0
  follower : Follower := .plain
  asked : Option Presentation := none
  deriving DecidableEq, Repr

namespace Reading

/-- Reads a character that is asked for no form which it has. -/
def freely (r : Reading) (f : Follower) (c : Char) : Reading :=
  if c == '\ufe0f' then { r with follower := f, asked := some .picture }
  else if c == '\ufe0e' then { r with follower := f, asked := some .letter }
  else
    let (columns, follower) := f.before c
    ⟨r.columns + columns, follower, none⟩

/-- Reads one more character. A picture that is asked for takes two columns, or none when a joiner ties it
to the next one; a letter that is asked for takes one. -/
def step (c : Char) (r : Reading) : Reading :=
  match r.asked with
  | none => r.freely r.follower c
  | some .picture =>
    if hasTwoForms c then
      let isTied := r.follower = .tied || r.follower = .tiedKeycap
      ⟨r.columns + (if isTied then 0 else 2), .picture, none⟩
    else r.freely r.follower.behindMark c
  | some .letter =>
    if hasLetterForm c then ⟨r.columns + 1, .plain, none⟩
    else r.freely r.follower.behindMark c

end Reading

def widthOfChars (s : List Char) : Nat := (s.foldr Reading.step {}).columns.toNat

def widthOfText (s : String) : Nat := widthOfChars s.toList

end CompileDesk.Canvas
