/-! # Text as UTF-8 bytes

Files and the output of programs hold bytes. A text file is read strictly: bytes that are not
UTF-8 are refused. The output of a program is read leniently: each maximal part that cannot be
completed to a character becomes the replacement character.
-/

namespace CompileDesk.Text

def replacement : Char := '\uFFFD'

/-- What the first byte of a character promises: how many bytes follow, the bits it gives, and the
range of the byte that comes next. -/
def lead? (b : UInt8) : Option (Nat × Nat × Nat × Nat) :=
  let n := b.toNat
  if 0xC2 ≤ n && n ≤ 0xDF then some (1, n - 0xC0, 0x80, 0xBF)
  else if n == 0xE0 then some (2, 0, 0xA0, 0xBF)
  else if n == 0xED then some (2, 13, 0x80, 0x9F)
  else if 0xE1 ≤ n && n ≤ 0xEF then some (2, n - 0xE0, 0x80, 0xBF)
  else if n == 0xF0 then some (3, 0, 0x90, 0xBF)
  else if 0xF1 ≤ n && n ≤ 0xF3 then some (3, n - 0xF0, 0x80, 0xBF)
  else if n == 0xF4 then some (3, 4, 0x80, 0x8F)
  else none

/-- Reads bytes as text. The second argument is the character under way: how many bytes it still
needs, its bits so far and the range of its next byte. A byte outside that range ends the part
with a replacement character and is read afresh. -/
def lenientGo : List UInt8 → Option (Nat × Nat × Nat × Nat) → List Char
  | [], none => []
  | [], some _ => [replacement]
  | b :: rest, none =>
    if b.toNat < 0x80 then Char.ofNat b.toNat :: lenientGo rest none
    else match lead? b with
      | some under => lenientGo rest (some under)
      | none => replacement :: lenientGo rest none
  | b :: rest, some (needed, bits, low, high) =>
    if low ≤ b.toNat && b.toNat ≤ high then
      let bits := bits * 64 + b.toNat % 64
      if needed ≤ 1 then Char.ofNat bits :: lenientGo rest none
      else lenientGo rest (some (needed - 1, bits, 0x80, 0xBF))
    else if b.toNat < 0x80 then
      replacement :: Char.ofNat b.toNat :: lenientGo rest none
    else match lead? b with
      | some under => replacement :: lenientGo rest (some under)
      | none => replacement :: replacement :: lenientGo rest none

/-- The text of some bytes, with replacement characters where they are not UTF-8. -/
def lenient (bytes : ByteArray) : String := String.ofList (lenientGo bytes.toList none)

/-- The text of some bytes; `none` when they are not UTF-8. -/
def strict? (bytes : ByteArray) : Option String := String.fromUTF8? bytes

def bytesOf (s : String) : ByteArray := s.toByteArray

@[simp] theorem strict?_bytesOf (s : String) : strict? (bytesOf s) = some s := by
  simp [strict?, bytesOf, String.fromUTF8?, String.fromUTF8, s.isValidUTF8]

def byteLength (s : String) : Nat := s.utf8ByteSize

end CompileDesk.Text
