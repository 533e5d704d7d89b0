import CompileDesk.Text.Cluster.Table
import CompileDesk.Text.Escape.Table

/-! # Texts in quotes

A text in quotes is seen whole, wherever it ends and whatever it holds. A backslash stands before a quote
mark, before another backslash and for the common controls; a character that is not seen by itself is
written by its code point. So every character of the result is seen by itself (`standsAlone_of_mem_quoted`).
-/

namespace CompileDesk.Text

/-- Whether a code point is that of a mark on the character before it. The shades of skin (U+1F3FB to
U+1F3FF) join a picture but are pictures of their own. -/
def isMark (n : Nat) : Bool :=
  (inRanges Cluster.markRanges n || inRanges Cluster.linkerRanges n) && !(0x1F3FB ≤ n && n ≤ 0x1F3FF)

/-- Whether a character is seen, and seen without another one before it. -/
def standsAlone (c : Char) : Bool :=
  if c.toNat < 0x7F then 0x20 ≤ c.toNat
  else !inRanges shapelessRanges c.toNat && !isMark c.toNat

def escape : Char → List Char
  | '\x00' => ['\\', '0']
  | '\t' => ['\\', 't']
  | '\r' => ['\\', 'r']
  | '\n' => ['\\', 'n']
  | '\\' => ['\\', '\\']
  | '"' => ['\\', '"']
  | '\'' => ['\\', '\'']
  | c =>
    if standsAlone c then [c]
    else '\\' :: 'u' :: '\x7b' :: (Nat.toDigits 16 c.toNat ++ ['\x7d'])

def quoted (s : String) : String := String.ofList ('"' :: (s.toList.flatMap escape ++ ['"']))

private theorem standsAlone_digitChar : ∀ n < 16, standsAlone n.digitChar = true := by decide

private theorem standsAlone_of_mem_toDigits {n : Nat} {c : Char} (h : c ∈ Nat.toDigits 16 n) :
    standsAlone c = true := by
  induction n using Nat.strongRecOn with
  | _ n ih =>
    rw [Nat.toDigits_eq_if (by decide)] at h
    split at h
    case isTrue small =>
      obtain rfl := List.mem_singleton.mp h
      exact standsAlone_digitChar n small
    case isFalse large =>
      rcases List.mem_append.mp h with front | last
      · exact ih (n / 16) (by omega) front
      · obtain rfl := List.mem_singleton.mp last
        exact standsAlone_digitChar _ (by omega)

theorem standsAlone_of_mem_escape {c d : Char} (h : d ∈ escape c) : standsAlone d = true := by
  unfold escape at h
  split at h
  case h_8 =>
    split at h
    case isTrue alone => exact List.mem_singleton.mp h ▸ alone
    case isFalse =>
      simp only [List.mem_cons, List.mem_append, List.not_mem_nil, or_false] at h
      rcases h with rfl | rfl | rfl | digit | rfl
      case inr.inr.inr.inl => exact standsAlone_of_mem_toDigits digit
      all_goals decide
  all_goals
    simp only [List.mem_cons, List.not_mem_nil, or_false] at h
    rcases h with rfl | rfl <;> decide

/-- Nothing in a text in quotes is hidden, and nothing joins what stands before it. -/
theorem standsAlone_of_mem_quoted {s : String} {c : Char} (h : c ∈ (quoted s).toList) :
    standsAlone c = true := by
  simp only [quoted, String.toList_ofList, List.mem_cons, List.mem_append, List.mem_flatMap,
    List.not_mem_nil, or_false] at h
  rcases h with rfl | ⟨d, -, escaped⟩ | rfl
  · decide
  · exact standsAlone_of_mem_escape escaped
  · decide

end CompileDesk.Text
