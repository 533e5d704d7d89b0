import CompileDesk.Proofs.Toml.Strings
import CompileDesk.Toml.Writer

/-! # Keys and plain values are read as they were written

A key is written part by part, and what comes after it tells where its last part ends. A plain value
without quotes is a truth value or an integer, and its digits can be taken for no moment.
-/

namespace CompileDesk.Toml

/-! ## Keys -/

def keyLexeme (key : String) : Lexeme :=
  let s := key.toList
  if !s.isEmpty && s.all isBareChar then .bare s
  else if Style.basic.shows s then .quoted .basic (Style.basic.tail s)
  else if Style.literal.shows s then .quoted .literal (Style.literal.tail s)
  else .quoted .basic (Style.basic.tail s)

def keyOf (path : List String) (last : String) : Key := ⟨path.map keyLexeme, keyLexeme last⟩

theorem keyLexeme_name? (key : String) : (keyLexeme key).name? = some key := by
  simp only [keyLexeme]
  split
  · rename_i bare
    simp only [Bool.and_eq_true] at bare
    simp [Lexeme.name?, bare.2]
  · split
    · simp [Lexeme.name?, content?_tail .basic trivial]
    · split
      · rename_i shows
        simp [Lexeme.name?, content?_tail .literal shows]
      · simp [Lexeme.name?, content?_tail .basic trivial]

@[simp] theorem keyOf_names (path : List String) (last : String) :
    (keyOf path last).names = .ok (path, last) := by
  have parts : (path.map keyLexeme).mapM Lexeme.name? = some path := by
    induction path with
    | nil => rfl
    | cons part path ih => simp [keyLexeme_name?, ih]
  simp [Key.names, keyOf, parts, keyLexeme_name?, wellFormed]

/-- The end of a part of a key: a text that begins with a dot, a blank or a bracket. -/
def EndsPart (s : List Char) : Prop := ∃ c more, s = c :: more ∧ (c = '.' ∨ c = ' ' ∨ c = ']')

theorem EndsPart.unquoted {s : List Char} (h : EndsPart s) : Unquoted s := by
  obtain ⟨c, more, rfl, rfl | rfl | rfl⟩ := h <;> exact ⟨by simp, by simp⟩

private theorem not_isBareChar_of_mem :
    ∀ c ∈ ['=', ',', '[', ']', '\x7b', '\x7d', ' ', '\t', '#', '\r', '\n', '\'', '"'],
      isBareChar c = false := by
  have all : ['=', ',', '[', ']', '\x7b', '\x7d', ' ', '\t', '#', '\r', '\n', '\'', '"'].all
      fun c => !isBareChar c := by
    decide
  exact fun c there => by simpa using List.all_eq_true.mp all c there

theorem endsBare_of_isBareChar {c : Char} (bare : isBareChar c) : (endsBare c || c == '.') = false := by
  refine Bool.or_eq_false_iff.mpr ⟨?_, ?_⟩
  · refine Bool.eq_false_iff.mpr fun ends => ?_
    have other := not_isBareChar_of_mem c (List.contains_iff_mem.mp ends)
    cases other.symm.trans bare
  · rw [beq_eq_false_iff_ne]
    rintro rfl
    cases bare

/-- What a part of a key begins with. -/
def startsPart (c : Char) : Bool := isBareChar c || c == '"' || c == '\''

theorem quotedKey_head (key : String) : ∃ c more, quotedKey key = c :: more ∧ startsPart c := by
  simp only [quotedKey]
  split
  · rename_i bare
    simp only [Bool.and_eq_true, Bool.not_eq_true', List.isEmpty_eq_false_iff_exists_mem] at bare
    cases h : key.toList with
    | nil => simp [h] at bare
    | cons c more =>
      have first := bare.2
      rw [h, List.all_cons, Bool.and_eq_true] at first
      exact ⟨c, more, rfl, by simp [startsPart, first.1]⟩
  · split
    · exact ⟨'"', _, rfl, rfl⟩
    · split
      · exact ⟨'\'', _, rfl, rfl⟩
      · exact ⟨'"', _, rfl, rfl⟩

/-- A bare text ends where a character follows that ends it. -/
theorem readBare?_append {ends : Char → Bool} {text rest : List Char} (some : text ≠ [])
    (inner : ∀ c ∈ text, ends c = false) (outer : ∃ c more, rest = c :: more ∧ ends c = true) :
    readBare? ends (text ++ rest) = .some (.bare text, rest) := by
  obtain ⟨c, more, rfl, last⟩ := outer
  have inner : ∀ c ∈ text, (!ends c) = true := by simpa using inner
  simp [readBare?, List.takeWhile_append_of_pos inner, List.dropWhile_append_of_pos inner, last, some]

theorem readQuoted?_of_head {c : Char} {s : List Char} (double : c ≠ '"') (single : c ≠ '\'') :
    readQuoted? (c :: s) = none := by
  rw [readQuoted?.eq_def]
  split <;> simp_all

theorem readPart?_key (key : String) {rest : List Char} (ends : EndsPart rest) :
    readPart? (quotedKey key ++ rest) = some (keyLexeme key, rest) := by
  simp only [quotedKey, keyLexeme]
  split
  · rename_i bare
    simp only [Bool.and_eq_true, Bool.not_eq_true', List.isEmpty_eq_false_iff, List.all_eq_true] at bare
    obtain ⟨some, bare⟩ := bare
    have unquoted : readQuoted? (key.toList ++ rest) = none := by
      obtain ⟨c, more, eq⟩ := List.exists_cons_of_ne_nil some
      have first := bare c (by simp [eq])
      rw [eq]
      refine readQuoted?_of_head ?_ ?_ <;> rintro rfl <;> cases first
    have read : readBare? (fun c => endsBare c || c == '.') (key.toList ++ rest) =
        .some (.bare key.toList, rest) := by
      refine readBare?_append some (fun c there => endsBare_of_isBareChar (bare c there)) ?_
      obtain ⟨c, more, rfl, rfl | rfl | rfl⟩ := ends <;> exact ⟨_, more, rfl, rfl⟩
    rw [readPart?, unquoted, read]
    rfl
  · split
    · simp [readPart?, readQuoted?_write .basic trivial ends.unquoted]
    · split
      · rename_i shows
        simp [readPart?, readQuoted?_write .literal shows ends.unquoted]
      · simp [readPart?, readQuoted?_write .basic trivial ends.unquoted]

theorem skipBlanks_of_head {c : Char} {s : List Char} (h : isLineBlank c = false) :
    skipBlanks (c :: s) = c :: s := by
  simp [skipBlanks, h]

theorem skipBlanks_key (key : String) (rest : List Char) :
    skipBlanks (quotedKey key ++ rest) = quotedKey key ++ rest := by
  obtain ⟨c, more, eq, starts⟩ := quotedKey_head key
  rw [eq]
  refine skipBlanks_of_head (Bool.eq_false_iff.mpr fun blank => ?_)
  simp only [isLineBlank, Bool.or_eq_true, beq_iff_eq] at blank
  obtain rfl | rfl := blank <;> cases starts

theorem joinedWith_cons {pieces : List (List Char)} (more : pieces ≠ []) (sep piece : List Char) :
    joinedWith sep (piece :: pieces) = piece ++ sep ++ joinedWith sep pieces := by
  cases pieces with
  | nil => exact absurd rfl more
  | cons next pieces => rfl

/-- A key is read up to the text behind it. -/
theorem readKeyGo_names (path : List String) (last : String) {rest after : List Char}
    (ends : EndsPart rest) (skipped : skipBlanks rest = after) (closed : ∀ more, after ≠ '.' :: more)
    (fuel : Nat) (enough : path.length < fuel) :
    readKeyGo fuel (joinedWith ['.'] ((path ++ [last]).map quotedKey) ++ rest) =
      some (keyOf path last, after) := by
  induction path generalizing fuel with
  | nil =>
    obtain ⟨fuel, rfl⟩ := Nat.exists_eq_succ_of_ne_zero (Nat.ne_of_gt enough)
    rw [List.nil_append, List.map_singleton, joinedWith, readKeyGo, skipBlanks_key, readPart?_key _ ends]
    simp only [skipped]
    rfl
  | cons part path ih =>
    obtain ⟨fuel, rfl⟩ := Nat.exists_eq_succ_of_ne_zero (Nat.ne_of_gt (Nat.zero_lt_of_lt enough))
    have dotted : EndsPart ('.' :: (joinedWith ['.'] ((path ++ [last]).map quotedKey) ++ rest)) :=
      ⟨'.', _, rfl, .inl rfl⟩
    have read := ih fuel (Nat.lt_of_succ_lt_succ enough)
    rw [List.cons_append, List.map_cons, joinedWith_cons (by simp), List.append_assoc, List.append_assoc,
      readKeyGo, skipBlanks_key]
    rw [List.singleton_append, readPart?_key _ dotted]
    simp only [skipBlanks_of_head (show isLineBlank '.' = false from rfl), read]
    rfl

theorem length_le_joinedKeys (path : List String) (last : String) :
    path.length ≤ (joinedWith ['.'] ((path ++ [last]).map quotedKey)).length := by
  induction path with
  | nil => exact Nat.zero_le _
  | cons part path ih =>
    rw [List.cons_append, List.map_cons, joinedWith_cons (by simp)]
    simp only [List.length_cons, List.length_append]
    omega

theorem readKey?_names (path : List String) (last : String) {rest after : List Char}
    (ends : EndsPart rest) (skipped : skipBlanks rest = after)
    (closed : ∀ more, after ≠ '.' :: more) :
    readKey? (joinedWith ['.'] ((path ++ [last]).map quotedKey) ++ rest) =
      some (keyOf path last, after) := by
  have := length_le_joinedKeys path last
  exact readKeyGo_names path last ends skipped closed _ (by simp only [List.length_append]; omega)

/-- The key of an entry, up to the sign behind it. -/
theorem readKey?_entry (path : List String) (last : String) (more : List Char) :
    readKey? (joinedWith ['.'] ((path ++ [last]).map quotedKey) ++ ' ' :: '=' :: more) =
      some (keyOf path last, '=' :: more) :=
  readKey?_names path last ⟨' ', _, rfl, .inr (.inl rfl)⟩ rfl (by simp)

/-- The key of a header, up to the bracket behind it. -/
theorem readKey?_header (path : List String) (last : String) (more : List Char) :
    readKey? (joinedWith ['.'] ((path ++ [last]).map quotedKey) ++ ']' :: more) =
      some (keyOf path last, ']' :: more) :=
  readKey?_names path last ⟨']', _, rfl, .inr (.inr rfl)⟩ rfl (by simp)

/-! ## Integers -/

theorem isDigit_of_mem_decimal {n : Nat} {c : Char} (h : c ∈ Text.decimal n) : Text.isDigit c := by
  have digit := Nat.isDigit_of_mem_toDigits (by decide) (by decide) h
  simpa [Text.isDigit, Char.isDigit, Char.le_def] using digit

theorem any_needsCode_decimal (n : Nat) : (Text.decimal n).any needsCode = false := by
  refine List.any_eq_false.mpr fun c there => ?_
  have digit := isDigit_of_mem_decimal there
  simp only [Text.isDigit, Bool.and_eq_true, decide_eq_true_eq, Char.le_def] at digit
  obtain ⟨low, high⟩ := digit
  have low : 48 ≤ c.val.toNat := low
  have high : c.val.toNat ≤ 57 := high
  simp only [needsCode, Bool.not_eq_true, Bool.or_eq_false_iff, Bool.and_eq_false_iff,
    decide_eq_false_iff_not, beq_eq_false_iff_ne, UInt32.lt_iff_toNat_lt, ne_eq, ← UInt32.toNat_inj,
    UInt32.reduceToNat]
  omega

private theorem digitChar_ne_zero : ∀ n < 10, 0 < n → n.digitChar ≠ '0' := by
  decide

/-- A number has no zero in front of its other digits. -/
theorem decimal_head {n : Nat} (positive : 0 < n) :
    ∃ d more, Text.decimal n = d :: more ∧ d ≠ '0' := by
  induction n using Nat.strongRecOn with
  | _ n ih =>
    by_cases small : n < 10
    · exact ⟨n.digitChar, [], Nat.toDigits_of_lt_base small, digitChar_ne_zero n small positive⟩
    · obtain ⟨d, more, eq, other⟩ := ih (n / 10) (by omega) (by omega)
      have digits := Nat.toDigits_append_toDigits (b := 10) (n := n / 10) (d := n % 10) (by decide)
        (by omega) (Nat.mod_lt _ (by decide))
      rw [Nat.div_add_mod] at digits
      refine ⟨d, more ++ Nat.toDigits 10 (n % 10), ?_, other⟩
      rw [Text.decimal, ← digits, ← Text.decimal, eq, List.cons_append]

theorem decimal_cons (n : Nat) :
    ∃ d more, Text.decimal n = d :: more ∧ Text.isDigit d ∧ (d = '0' → more = []) := by
  obtain rfl | positive := Nat.eq_zero_or_pos n
  · exact ⟨'0', [], rfl, rfl, fun _ => rfl⟩
  · obtain ⟨d, more, eq, other⟩ := decimal_head positive
    exact ⟨d, more, eq, isDigit_of_mem_decimal (eq ▸ List.mem_cons_self), fun h => absurd h other⟩

theorem ungroupedGo_digits {s : List Char} (digits : ∀ c ∈ s, Text.isDigit c) :
    ungroupedGo Text.isDigit true s = some s := by
  induction s with
  | nil => rfl
  | cons c s ih =>
    have first := digits c List.mem_cons_self
    have single : (c == '_') = false := by
      rw [beq_eq_false_iff_ne]
      rintro rfl
      cases first
    simp [ungroupedGo, single, first, ih fun d there => digits d (List.mem_cons_of_mem c there)]

theorem wholeDigits?_decimal (n : Nat) : wholeDigits? (Text.decimal n) = some (Text.decimal n) := by
  obtain ⟨d, more, eq, digit, zero⟩ := decimal_cons n
  have others : ungroupedGo Text.isDigit true more = some more :=
    ungroupedGo_digits fun c there => isDigit_of_mem_decimal (eq ▸ List.mem_cons_of_mem d there)
  have single : (d == '_') = false := by
    rw [beq_eq_false_iff_ne]
    rintro rfl
    cases digit
  rw [eq, wholeDigits?]
  · simp [ungrouped?, ungroupedGo, single, digit, others]
  · rintro e rest same
    obtain ⟨rfl, rfl⟩ := List.cons.inj same
    cases zero rfl

theorem decimalNumber?_decimal (negative : Bool) (n : Nat) :
    decimalNumber? negative (Text.decimal n) =
      some (.integer (if negative then -(n : Int) else n)) := by
  have grouped : ∀ c ∈ Text.decimal n, isGrouped c = true := fun c there => by
    simp [isGrouped, isDigit_of_mem_decimal there]
  have whole : (Text.decimal n).takeWhile isGrouped = Text.decimal n :=
    List.takeWhile_eq_self_iff.mpr grouped
  have nothing : (Text.decimal n).dropWhile isGrouped = [] := List.dropWhile_eq_nil_iff.mpr grouped
  simp [decimalNumber?, whole, nothing, wholeDigits?_decimal]

theorem expect?_of_notMem {c : Char} {s : List Char} (h : c ∉ s) : expect? c s = none := by
  cases s with
  | nil => rfl
  | cons d s =>
    have other : c ≠ d := fun same => h (same ▸ List.mem_cons_self)
    simp [expect?, other]

/-- A date has a hyphen behind its year, and a time of day a colon behind its hour. -/
theorem moment_read?_eq_none {s : List Char} (noHyphen : '-' ∉ s.tail) (noColon : ':' ∉ s) :
    Moment.read? s = none := by
  have date : readDate? s = none := by
    match s with
    | [] | [_] | [_, _] | [_, _, _] => rfl
    | a :: b :: c :: d :: rest =>
      have missing : expect? '-' rest = none := expect?_of_notMem fun there => noHyphen (by simp [there])
      rw [readDate?, fourDigits?]
      split <;> simp [missing]
  have time : readTime? s = none := by
    match s with
    | [] | [_] => rfl
    | a :: b :: rest =>
      have missing : expect? ':' rest = none := expect?_of_notMem fun there => noColon (by simp [there])
      rw [readTime?, twoDigits?]
      split <;> simp [missing]
  simp [Moment.read?, date, time]

/-- What stands for a number begins with a digit, and has no letter behind a zero. -/
theorem scalar?_eq_signedNumber? {s : List Char} (noTruth : s.head? ≠ some 't' ∧ s.head? ≠ some 'f')
    (noMoment : Moment.read? s = none) (noBase : s.head? = some '0' → s.tail = []) :
    scalar? s = signedNumber? s := by
  have noTrue : (s == "true".toList) = false := by
    rw [beq_eq_false_iff_ne]
    rintro rfl
    exact noTruth.1 rfl
  have noFalse : (s == "false".toList) = false := by
    rw [beq_eq_false_iff_ne]
    rintro rfl
    exact noTruth.2 rfl
  unfold scalar?
  rw [noTrue, noFalse, noMoment]
  simp only [Bool.false_eq_true, if_false]
  split
  · contradiction
  all_goals first | cases noBase rfl | rfl

theorem ne_of_isDigit {d c : Char} (digit : Text.isDigit d) (other : Text.isDigit c = false) :
    d ≠ c := by
  rintro rfl
  cases other.symm.trans digit

/-- The sign of a decimal number is told apart from its digits. -/
theorem signedNumber?_signed (negative : Bool) (n : Nat) :
    signedNumber? ((if negative then ['-'] else []) ++ Text.decimal n) =
      some (.integer (if negative then -(n : Int) else n)) := by
  obtain ⟨d, more, eq, digit, _⟩ := decimal_cons n
  have noInfinity : d ≠ 'i' := ne_of_isDigit digit rfl
  have noNan : d ≠ 'n' := ne_of_isDigit digit rfl
  have noMinus : d ≠ '-' := ne_of_isDigit digit rfl
  have noPlus : d ≠ '+' := ne_of_isDigit digit rfl
  have number := decimalNumber?_decimal negative n
  rw [eq] at number ⊢
  cases negative <;> simpa [signedNumber?, noInfinity, noNan, noMinus, noPlus] using number

theorem notMem_decimal {c : Char} (other : Text.isDigit c = false) (n : Nat) :
    c ∉ Text.decimal n := fun there =>
  ne_of_isDigit (isDigit_of_mem_decimal there) other rfl

/-- An integer is read as it was written. -/
theorem scalar?_ofInt (n : Int) : scalar? (Text.ofInt n).toList = some (.integer n) := by
  cases n with
  | ofNat n =>
    have number := signedNumber?_signed false n
    obtain ⟨d, more, eq, digit, zero⟩ := decimal_cons n
    have noHyphen := notMem_decimal (c := '-') rfl n
    have noColon := notMem_decimal (c := ':') rfl n
    rw [Text.ofInt, Text.ofNat, String.toList_ofList, scalar?_eq_signedNumber?]
    · exact number
    · have noTrue : d ≠ 't' := ne_of_isDigit digit rfl
      have noFalse : d ≠ 'f' := ne_of_isDigit digit rfl
      simp [eq, noTrue, noFalse]
    · exact moment_read?_eq_none (fun there => noHyphen (List.mem_of_mem_tail there)) noColon
    · rw [eq]
      simpa using zero
  | negSucc n =>
    have number := signedNumber?_signed true (n + 1)
    have noHyphen := notMem_decimal (c := '-') rfl (n + 1)
    have noColon := notMem_decimal (c := ':') rfl (n + 1)
    have text : (Text.ofInt (.negSucc n)).toList = '-' :: Text.decimal (n + 1) := by
      simp [Text.ofInt, Text.ofNat]
    rw [text, scalar?_eq_signedNumber?]
    · exact number
    · simp
    · exact moment_read?_eq_none noHyphen (by simp [noColon])
    · simp

end CompileDesk.Toml
