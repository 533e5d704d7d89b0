import CompileDesk.Text.Cluster.Table

/-! # Roles in a cluster

What a character does where text is cut into clusters is its role. Every character has one role; most
have none to play and are `other`.
-/

namespace CompileDesk.Text.Cluster

inductive Role where
  | carriageReturn
  | lineFeed
  | control
  | mark
  | linker
  | nonJoiner
  | joiner
  | spacing
  | opening
  | leading
  | vowel
  | trailing
  | openSyllable
  | closedSyllable
  | flag
  | picture
  | consonant
  | other
  deriving DecidableEq, Repr

def isFlagLetter (c : Char) : Bool := 0x1F1E6 ≤ c.toNat && c.toNat ≤ 0x1F1FF

/-- Whether a character is a control character in the narrow sense, which is never shown. -/
def isControl (c : Char) : Bool := c.toNat < 0x20 || (0x7F ≤ c.toNat && c.toNat < 0xA0)

/-- The vowel signs that act like vowels of a syllable block. -/
def isVowelSign (n : Nat) : Bool := n = 0x16D63 || (0x16D67 ≤ n && n ≤ 0x16D6A)

/-- The role of a code point below U+0300. -/
def lowRole (n : Nat) : Role :=
  if n = 0xD then .carriageReturn
  else if n = 0xA then .lineFeed
  else if n < 0x20 || (0x7F ≤ n && n < 0xA0) || n = 0xAD then .control
  else if n = 0xA9 || n = 0xAE then .picture
  else .other

/-- The role of a part of a syllable block: a leading consonant, a vowel, a trailing consonant, or a
whole block, which is open when it has no trailing consonant. -/
def syllableRole? (n : Nat) : Option Role :=
  if (0x1100 ≤ n && n ≤ 0x115F) || (0xA960 ≤ n && n ≤ 0xA97C) then some .leading
  else if (0x1160 ≤ n && n ≤ 0x11A7) || (0xD7B0 ≤ n && n ≤ 0xD7C6) || isVowelSign n then some .vowel
  else if (0x11A8 ≤ n && n ≤ 0x11FF) || (0xD7CB ≤ n && n ≤ 0xD7FB) then some .trailing
  else if 0xAC00 ≤ n && n ≤ 0xD7A3 then
    some (if (n - 0xAC00) % 28 = 0 then .openSyllable else .closedSyllable)
  else none

def tableRole (n : Nat) : Role :=
  if n = 0x200C then .nonJoiner
  else if n = 0x200D then .joiner
  else if inRanges controlRanges n then .control
  else if inRanges markRanges n then .mark
  else if inRanges linkerRanges n then .linker
  else if inRanges spacingRanges n then .spacing
  else if inRanges openingRanges n then .opening
  else if inRanges pictureRanges n then .picture
  else if inRanges consonantRanges n then .consonant
  else .other

/-- The role of a character. The ideographs from U+3400 to U+9FFF play none. -/
def role (c : Char) : Role :=
  if c.toNat < 0x300 then lowRole c.toNat
  else if 0x3400 ≤ c.toNat && c.toNat ≤ 0x9FFF then .other
  else if isFlagLetter c then .flag
  else (syllableRole? c.toNat).getD (tableRole c.toNat)

end CompileDesk.Text.Cluster
