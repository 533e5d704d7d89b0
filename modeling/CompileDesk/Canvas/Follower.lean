import CompileDesk.Canvas.Presentation
import CompileDesk.Canvas.Width

/-! # What follows a character

The columns that a character takes depend on what is to the right of it: a mark that asks for one of its
forms, a picture to which a joiner ties it, or a letter with which it makes a ligature. A text is read from
the right, and what was read is kept as a follower.
-/

namespace CompileDesk.Canvas

open Text Text.Cluster

/-- The right parts of ligatures. `vowelYa` is a vowel tied to `ya`, `joinedConsonant` a consonant with the
joiner of its script before it. -/
inductive RightPart where
  | lamed
  | ya
  | vowelYa
  | consonant
  | joinedConsonant
  | tone
  | subscript
  | orkhonI
  deriving DecidableEq, Repr

/-- What stands to the right of a character. A picture, a run of flags or a keycap may be tied to what comes
before by a joiner; so may a flag of a region, of which letters and digits have been read. -/
inductive Follower where
  | plain
  | lineFeed
  | skin
  | flagLetter
  | flags
  | picture
  | tied
  | tiedKeycap
  | tiedFlagLetter
  | tiedFlags
  | tiedOddFlags
  | tiedRegion (letters digits : Nat)
  | alef
  | part (p : RightPart) (isTied : Bool)
  | vowelE
  | vowelAi
  deriving DecidableEq, Repr

def isWithin (c : Char) (first last : Nat) : Bool := first ≤ c.toNat && c.toNat ≤ last

/-- The letters with the form of alef, the right part of a ligature with lam. -/
def isAlef (c : Char) : Bool :=
  isWithin c 0x622 0x623 || c.toNat = 0x625 || c.toNat = 0x627 || isWithin c 0x671 0x673 ||
    c.toNat = 0x675 || isWithin c 0x773 0x774 || isWithin c 0x870 0x882

/-- The letters with the form of lam. -/
def isLam (c : Char) : Bool :=
  c.toNat = 0x644 || isWithin c 0x6B5 0x6B8 || c.toNat = 0x76A || c.toNat = 0x8A6 || c.toNat = 0x8C7

/-- The letters that can be written below another one. -/
def isSubscriptLetter (c : Char) : Bool :=
  isWithin c 0x1780 0x1782 || isWithin c 0x1784 0x1787 || isWithin c 0x1789 0x178C ||
    isWithin c 0x178E 0x1793 || isWithin c 0x1795 0x1798 || isWithin c 0x179B 0x179D ||
    c.toNat = 0x17A0 || c.toNat = 0x17A2 || c.toNat = 0x17A7 || isWithin c 0x17AB 0x17AC ||
    c.toNat = 0x17AF

/-- The consonants that a joiner of their own script ties. -/
def isJoinedConsonant (c : Char) : Bool := isWithin c 0x2D31 0x2D65 || c.toNat = 0x2D6F

/-- The characters that leave a ligature whole when they are between its parts. -/
def isTransparent (c : Char) : Bool :=
  c.toNat = 0x34F || isWithin c 0x17B4 0x17B5 || isWithin c 0x180B 0x180D || c.toNat = 0x180F ||
    isWithin c 0xFE00 0xFE0F || isWithin c 0xE0100 0xE01EF

/-- The marks that leave a ligature of lam and alef whole. -/
def isMarkOfLam (c : Char) : Bool :=
  isWidthless c && (role c == .mark || role c == .linker || role c == .control || c.toNat = 0x70F)

/-- A character with two forms that is shown in colour by itself, ideographs apart. -/
def hasLetterForm (c : Char) : Bool :=
  hasTwoForms c && isColourPicture c && !isWithin c 0x1F200 0x1F2FF

namespace Follower

def ofChar (c : Char) : Follower :=
  if isSkin c then .skin
  else if isFlagLetter c then .flagLetter
  else if isColourPicture c then .picture
  else if isAlef c then .alef
  else if isSubscriptLetter c then .part .subscript false
  else if isJoinedConsonant c then .part .consonant false
  else if isWithin c 0xA4FC 0xA4FD then .part .tone false
  else
    match c.toNat with
    | 0x5DC => .part .lamed false
    | 0x1A10 => .part .ya false
    | 0x10C03 => .part .orkhonI false
    | 0x16D67 => .vowelE
    | 0x16D68 => .vowelAi
    | _ => .plain

/-- What is left of a follower behind a mark that asks for a form which the character before it lacks. -/
def behindMark : Follower → Follower
  | .alef => .alef
  | .part p isTied => .part p isTied
  | _ => .plain

/-- The letters and digits of the flag of a region, read from the right. A tag of up to six letters and
then up to three digits is read, with at most four letters before the digits. -/
def region (letters digits : Nat) (c : Char) : Option (Int × Follower) :=
  if isWithin c 0xE0061 0xE007A && digits = 0 && letters < 6 then
    some (0, .tiedRegion (letters + 1) 0)
  else if isWithin c 0xE0030 0xE0039 && (digits = 0 && letters ≤ 4 || 0 < digits && digits < 3) then
    some (0, .tiedRegion letters (digits + 1))
  else if c.toNat = 0x1F3F4 && (digits = 3 || digits = 0 && 3 ≤ letters) then some (0, .picture)
  else none

def tie (c : Char) : Option (Int × Follower) :=
  if c.toNat = 0x20E3 then some (0, .tiedKeycap)
  else if isFlagLetter c then some (1, .tiedFlagLetter)
  else if isSkin c then some (0, .skin)
  else if c.toNat = 0xE007F then some (0, .tiedRegion 0 0)
  else if isColourPicture c then some (0, .picture)
  else none

def ligature (p : RightPart) (isTied : Bool) (c : Char) : Option (Int × Follower) :=
  match p with
  | .lamed => if isTied && c.toNat = 0x5D0 then some (0, .plain) else none
  | .ya => if isTied && c.toNat = 0x1A17 then some (0, .part .vowelYa false) else none
  | .vowelYa => if c.toNat = 0x1A15 then some (0, .plain) else none
  | .consonant =>
    if c.toNat = 0x2D7F then some (1, .part .joinedConsonant false)
    else if isTied && isJoinedConsonant c then some (0, .plain)
    else none
  | .joinedConsonant => if isJoinedConsonant c then some (-1, .plain) else none
  | .tone => if isWithin c 0xA4F8 0xA4FB then some (0, .plain) else none
  | .subscript => if c.toNat = 0x17D2 then some (-1, .plain) else none
  | .orkhonI => if isTied && c.toNat = 0x10C32 then some (0, .plain) else none

/-- How many columns a character adds before a follower, and what the two are together, when they are more
than one after the other. -/
def meet? (f : Follower) (c : Char) : Option (Int × Follower) :=
  match f with
  | .plain => none
  | .lineFeed => if c == '\r' then some (0, .plain) else none
  | .skin => if isSkinned c then some (0, .picture) else if c == '\u200d' then some (0, .tied) else none
  | .flagLetter => if isFlagLetter c then some (1, .flags) else none
  | .flags =>
    if isFlagLetter c then some (1, .flags) else if c == '\u200d' then some (0, .tied) else none
  | .picture => if c == '\u200d' then some (0, .tied) else none
  | .tied => tie c
  | .tiedKeycap => none
  | .tiedFlagLetter => if isFlagLetter c then some (-1, .tiedFlags) else none
  | .tiedFlags =>
    if isFlagLetter c then some (3, .tiedOddFlags)
    else if c == '\u200d' then some (0, .tied)
    else none
  | .tiedOddFlags =>
    if isFlagLetter c then some (-1, .tiedFlags)
    else if c == '\u200d' then some (0, .tied)
    else none
  | .tiedRegion letters digits => region letters digits c
  | .alef =>
    if isLam c then some (0, .plain) else if isMarkOfLam c then some (0, .alef) else none
  | .part p isTied =>
    if c == '\u200d' then some (0, .part p true)
    else if isTransparent c then some (0, .part p isTied)
    else ligature p isTied c
  | .vowelE =>
    match c.toNat with
    | 0x16D63 | 0x16D69 => some (0, .plain)
    | 0x16D67 => some (0, .vowelAi)
    | 0x16D68 => some (1, .vowelE)
    | _ => none
  | .vowelAi => if c.toNat = 0x16D63 then some (0, .plain) else none

/-- How many columns a character adds before a follower, and what the two are together. Characters of the
first block make nothing but the end of a line. -/
def before (f : Follower) (c : Char) : Int × Follower :=
  match f.meet? c with
  | some met => met
  | none => if c == '\n' then (1, .lineFeed) else (charWidth c, ofChar c)

end Follower
end CompileDesk.Canvas
