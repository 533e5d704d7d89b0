import CompileDesk.Json.Scan
import CompileDesk.Json.Writer

/-!
# Strings in JSON texts

A character of a string stands for itself, or it is written as an escape: a letter after a backslash,
the number of a code unit, or the numbers of two surrogates. A string is read as the characters
it was written for, whichever way each of them was written, and what the writer puts down is one of
these ways.
-/

namespace CompileDesk.Json

/-- The letters that may follow a backslash, each with the character that is meant. -/
def shortEscapes : List (Char × Char) :=
  [('"', '"'), ('\\', '\\'), ('/', '/'), ('b', '\x08'), ('f', '\x0c'), ('n', '\n'), ('r', '\r'),
    ('t', '\t')]

/-- The digit stands for the number, in either case. -/
def IsHexDigit (digit : Char) (n : Nat) : Prop :=
  "0123456789abcdef".toList[n]? = some digit ∨ "0123456789ABCDEF".toList[n]? = some digit

/-- The four digits of a code unit. -/
inductive IsUnit : List Char → Nat → Prop where
  | digits {a b c d : Char} {p q r s : Nat} (first : IsHexDigit a p) (second : IsHexDigit b q)
      (third : IsHexDigit c r) (fourth : IsHexDigit d s) :
      IsUnit [a, b, c, d] (0x1000 * p + 0x100 * q + 0x10 * r + s)

/-- The ways to write a character in a string. -/
inductive Spelled (c : Char) : List Char → Prop where
  | plain (noQuote : c ≠ '"') (noBackslash : c ≠ '\\') (noControl : ' ' ≤ c) : Spelled c [c]
  | short {letter : Char} (isShort : (letter, c) ∈ shortEscapes) : Spelled c ['\\', letter]
  | unit {digits : List Char} (number : IsUnit digits c.toNat) : Spelled c ('\\' :: 'u' :: digits)
  /-- A character beyond the code units, of whose number less `0x10000` each surrogate holds ten
  bits. -/
  | surrogates {leading trailing : List Char} {high low : Nat} (leads : IsUnit leading (0xD800 + high))
      (trails : IsUnit trailing (0xDC00 + low)) (isLow : low < 0x400)
      (number : c.toNat = 0x10000 + 0x400 * high + low) :
      Spelled c ('\\' :: 'u' :: (leading ++ '\\' :: 'u' :: trailing))

/-- The ways to write some characters in a string. -/
inductive SpelledAll : List Char → List Char → Prop where
  | nil : SpelledAll [] []
  | cons {c : Char} {s text more : List Char} (first : Spelled c text) (others : SpelledAll s more) :
      SpelledAll (c :: s) (text ++ more)

/-- The texts of a string, with their quotes. -/
def Quotes (s : String) (text : List Char) : Prop :=
  ∃ inner, SpelledAll s.toList inner ∧ text = '"' :: (inner ++ ['"'])

/-! ## Reading -/

theorem shortEscape?_eq_some {letter c : Char} (isShort : (letter, c) ∈ shortEscapes) :
    letter ≠ 'u' ∧ shortEscape? letter = some c := by
  have each : ∀ pair ∈ shortEscapes, pair.1 ≠ 'u' ∧ shortEscape? pair.1 = some pair.2 := by decide
  exact each _ isShort

theorem hexValue?_eq_some {digit : Char} {n : Nat} (h : IsHexDigit digit n) :
    Text.hexValue? digit = some n := by
  have each : ∀ n < 16, ∀ table ∈ ["0123456789abcdef".toList, "0123456789ABCDEF".toList],
      table[n]?.bind Text.hexValue? = some n := by decide
  have small : n < 16 := by
    obtain there | there := h <;> exact (List.getElem?_eq_some_iff.mp there).1
  obtain there | there := h
  · have value := each n small _ List.mem_cons_self
    rwa [there] at value
  · have value := each n small _ (List.mem_cons_of_mem _ List.mem_cons_self)
    rwa [there] at value

theorem readUnit_append {digits : List Char} {n : Nat} (h : IsUnit digits n) (rest : List Char) :
    readUnit (digits ++ rest) = .ok (n, rest) := by
  obtain ⟨first, second, third, fourth⟩ := h
  rename_i a b c d p q r s
  have value : Text.hexadecimal? [a, b, c, d] =
      some (0x1000 * p + 0x100 * q + 0x10 * r + s) := by
    simp only [Text.hexadecimal?, List.foldlM_cons, List.foldlM_nil, hexValue?_eq_some first,
      hexValue?_eq_some second, hexValue?_eq_some third, hexValue?_eq_some fourth]
    change some ((((0 * 16 + p) * 16 + q) * 16 + r) * 16 + s) = _
    rw [Option.some.injEq]
    omega
  simp only [List.cons_append, List.nil_append, readUnit, value]

theorem toNat_lt_surrogates_or (c : Char) : c.toNat < 0xD800 ∨ 0xDFFF < c.toNat := by
  have valid := c.valid
  have same : c.toNat = c.val.toNat := rfl
  simp only [UInt32.isValidChar, Nat.isValidChar] at valid
  omega

theorem toNat_lt (c : Char) : c.toNat < 0x110000 := by
  have valid := c.valid
  have same : c.toNat = c.val.toNat := rfl
  simp only [UInt32.isValidChar, Nat.isValidChar] at valid
  omega

variable {c : Char} {s text : List Char}

theorem readEscape_short {letter : Char} (isShort : (letter, c) ∈ shortEscapes) (rest : List Char) :
    readEscape (letter :: rest) = .ok (c, rest) := by
  obtain ⟨notUnit, means⟩ := shortEscape?_eq_some isShort
  unfold readEscape
  split
  · cases ‹letter :: rest = []›
  · rename_i same
    injection same with same
    exact absurd same notUnit
  · rename_i same
    injection same with same same'
    subst same same'
    rw [means]

theorem readEscape_unit {digits : List Char} (number : IsUnit digits c.toNat) (rest : List Char) :
    readEscape ('u' :: (digits ++ rest)) = .ok (c, rest) := by
  have apart := toNat_lt_surrogates_or c
  have notTrailing : ¬ (0xDC00 ≤ c.toNat ∧ c.toNat ≤ 0xDFFF) := by omega
  have notLeading : ¬ (0xD800 ≤ c.toNat ∧ c.toNat ≤ 0xDBFF) := by omega
  rw [readEscape, readUnit_append number, Reading.andThen_ok]
  simp only [Bool.and_eq_true, decide_eq_true_eq, notTrailing, notLeading, ↓reduceIte,
    Char.ofNat_toNat]

theorem readEscape_surrogates {leading trailing : List Char} {high low : Nat}
    (leads : IsUnit leading (0xD800 + high)) (trails : IsUnit trailing (0xDC00 + low))
    (isLow : low < 0x400)
    (number : c.toNat = 0x10000 + 0x400 * high + low) (rest : List Char) :
    readEscape ('u' :: (leading ++ '\\' :: 'u' :: (trailing ++ rest))) = .ok (c, rest) := by
  have isHigh : high < 0x400 := by
    have bound := toNat_lt c
    omega
  have notTrailing : ¬ (0xDC00 ≤ 0xD800 + high ∧ 0xD800 + high ≤ 0xDFFF) := by omega
  have isLeading : 0xD800 ≤ 0xD800 + high ∧ 0xD800 + high ≤ 0xDBFF := by omega
  have isTrailing : ¬ (0xDC00 + low < 0xDC00 ∨ 0xDFFF < 0xDC00 + low) := by omega
  have whole : (0xD800 + high - 0xD800) * 1024 + (0xDC00 + low - 0xDC00) + 0x10000 = c.toNat := by
    omega
  rw [readEscape, readUnit_append leads, Reading.andThen_ok]
  simp only [Bool.and_eq_true, decide_eq_true_eq, notTrailing, isLeading, true_and, ↓reduceIte]
  rw [readTrailing, readUnit_append trails, Reading.andThen_ok]
  simp only [Bool.or_eq_true, decide_eq_true_eq, isTrailing, ↓reduceIte, whole, Char.ofNat_toNat]

theorem readStringGo_escape (fuel : Nat) (rest : List Char) :
    readStringGo (fuel + 1) ('\\' :: rest) =
      (readEscape rest).andThen fun c after =>
      (readStringGo fuel after).andThen fun cs after => .ok (c :: cs, after) :=
  rfl

theorem readStringGo_cons (noQuote : c ≠ '"') (noBackslash : c ≠ '\\') (fuel : Nat)
    (rest : List Char) : readStringGo (fuel + 1) (c :: rest) =
      if c.val < 0x20 then failAhead .controlCharacter (c :: rest)
      else (readStringGo fuel rest).andThen fun cs after => .ok (c :: cs, after) := by
  rw [readStringGo]
  · exact noQuote
  · exact noBackslash

/-- A character is read as itself, however it is written. -/
theorem Spelled.readStringGo (h : Spelled c text) (fuel : Nat) (rest : List Char) :
    Json.readStringGo (fuel + 1) (text ++ rest) =
      (Json.readStringGo fuel rest).andThen fun cs after => .ok (c :: cs, after) := by
  cases h with
  | plain noQuote noBackslash noControl =>
    have printed : ¬ c.val < 0x20 := UInt32.not_lt.mpr noControl
    rw [List.singleton_append, readStringGo_cons noQuote noBackslash, if_neg printed]
  | short isShort =>
    rw [List.cons_append, List.singleton_append, readStringGo_escape, readEscape_short isShort]
    rfl
  | unit number =>
    rw [List.cons_append, List.cons_append, readStringGo_escape, readEscape_unit number]
    rfl
  | surrogates leads trails isLow number =>
    simp only [List.cons_append, List.append_assoc]
    rw [readStringGo_escape, readEscape_surrogates leads trails isLow number]
    rfl

theorem Spelled.length_pos (h : Spelled c text) : 0 < text.length := by
  cases h <;> exact Nat.zero_lt_succ _

theorem readStringGo_append (h : SpelledAll s text) {fuel : Nat} (enough : s.length < fuel)
    (rest : List Char) : readStringGo fuel (text ++ '"' :: rest) = .ok (s, rest) := by
  induction h generalizing fuel with
  | nil =>
    cases fuel with
    | zero => cases enough
    | succ fuel => rfl
  | cons first others ih =>
    cases fuel with
    | zero => cases enough
    | succ fuel =>
      rw [List.append_assoc, first.readStringGo, ih (Nat.lt_of_succ_lt_succ enough)]
      rfl

theorem SpelledAll.length_le (h : SpelledAll s text) : s.length ≤ text.length := by
  induction h with
  | nil => exact Nat.le_refl 0
  | cons first others ih =>
    have some := first.length_pos
    simp only [List.length_cons, List.length_append]
    omega

/-- A string is read as it was written. -/
theorem Quotes.readString {s : String} (h : Quotes s text) : ∃ inner, text = '"' :: inner ∧
    ∀ rest, Json.readString (inner ++ rest) = .ok (s, rest) := by
  obtain ⟨inner, spelled, rfl⟩ := h
  refine ⟨inner ++ ['"'], rfl, fun rest => ?_⟩
  have shorter := spelled.length_le
  have enough : s.toList.length < (inner ++ '"' :: rest).length + 1 := by
    simp only [List.length_append]
    omega
  rw [List.append_assoc, List.singleton_append, Json.readString,
    readStringGo_append spelled enough, Reading.andThen_ok, String.ofList_toList]

/-! ## Writing -/

theorem isHexDigit_lower (n : Nat) : IsHexDigit (Text.lowerHexChar n) (n % 16) := by
  have each : ∀ n < 16, "0123456789abcdef".toList[n]? = some (Text.lowerHexChar n) := by decide
  have same : Text.lowerHexChar (n % 16) = Text.lowerHexChar n := by
    simp only [Text.lowerHexChar, Nat.mod_mod]
  have digit := each (n % 16) (Nat.mod_lt n (by decide))
  rw [same] at digit
  exact .inl digit

theorem isUnit_of_lt {n : Nat} (small : n < 0x100) :
    IsUnit ['0', '0', Text.lowerHexChar (n / 16), Text.lowerHexChar n] n := by
  have zero : IsHexDigit '0' 0 := .inl rfl
  have unit := IsUnit.digits zero zero (isHexDigit_lower (n / 16)) (isHexDigit_lower n)
  have same : 0x1000 * 0 + 0x100 * 0 + 0x10 * (n / 16 % 16) + n % 16 = n := by omega
  rwa [same] at unit

/-- The writer puts down one of the ways to write a character. -/
theorem spelled_escaped (c : Char) : Spelled c (escaped c) := by
  unfold escaped
  split
  case h_8 notQuote notBackslash _ _ _ _ _ =>
    split
    · rename_i isControl
      have small : c.toNat < 0x100 := Nat.lt_of_lt_of_le isControl (by decide)
      exact .unit (isUnit_of_lt small)
    · rename_i notControl
      exact .plain notQuote notBackslash (UInt32.not_lt.mp notControl)
  all_goals exact .short (by decide)

theorem spelledAll_escaped (s : List Char) : SpelledAll s (s.flatMap escaped) := by
  induction s with
  | nil => exact .nil
  | cons c s ih => exact .cons (spelled_escaped c) ih

theorem quotes_quoted (s : String) : Quotes s (quoted s) :=
  ⟨_, spelledAll_escaped s.toList, rfl⟩

end CompileDesk.Json
