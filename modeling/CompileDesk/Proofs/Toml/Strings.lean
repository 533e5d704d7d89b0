import Mathlib.Data.List.TakeWhile
import CompileDesk.Toml.Meaning

/-! # Strings are read as they were written

Whatever style a string is written in, the reader finds the end where the writer put it, and reads the
string that was written. In a basic string a character stands in one of a few ways, and each way is passed
over and read by one step. Over several lines quotes may stand as themselves, so that the end is found
by counting: either the rest of the string consists of at most two quotes, or the quotes under way are too
few for an end.
-/

namespace CompileDesk.Toml

/-- A character that may stand behind a backslash, or behind one that does, and means nothing there. -/
def isCode (c : Char) : Bool :=
  c != '"' && c != '\\' && c != '\n' && c != '\r' && c != ' ' && c != '\t'

/-- How a character stands in a basic string: as itself, as a line end, behind a backslash, or coded. -/
inductive Shown (long : Bool) (c : Char) : List Char → Prop where
  | plain (plain : isPlain c) (noQuote : c ≠ '"') (noBackslash : c ≠ '\\') : Shown long c [c]
  | lineFeed (several : long = true) (same : c = '\n') : Shown long c [c]
  | escaped (special : c = '"' ∨ c = '\\') : Shown long c ['\\', c]
  | coded {d : Char} {code : List Char} (passed : (d :: code).all isCode)
      (reads : ∀ rest, readEscape? (d :: code ++ rest) = some (c, rest)) :
      Shown long c ('\\' :: d :: code)

/-! ## Characters behind a backslash -/

private theorem hexadecimal_of_lt :
    ∀ n < 128, Text.hexadecimal? ['0', '0', Text.upperHexChar (n / 16), Text.upperHexChar n] =
      some n := by
  decide

private theorem isCode_of_lt :
    ∀ n < 128, ['u', '0', '0', Text.upperHexChar (n / 16), Text.upperHexChar n].all isCode := by
  decide

theorem Shown.of_needsCode {long : Bool} {c : Char} (h : needsCode c) :
    Shown long c ['\\', 'u', '0', '0', Text.upperHexChar (c.toNat / 16), Text.upperHexChar c.toNat] := by
  -- only control characters need a code, so that two zeros come first
  have small : c.toNat < 128 := by
    simp only [needsCode, Bool.or_eq_true, Bool.and_eq_true, decide_eq_true_eq, beq_iff_eq,
      UInt32.lt_iff_toNat_lt, ← UInt32.toNat_inj] at h
    change c.val.toNat < 128
    obtain ⟨⟨low, _⟩, _⟩ | delete := h
    · exact Nat.lt_trans low (by decide)
    · rw [delete]
      decide
  refine .coded (isCode_of_lt c.toNat small) fun rest => ?_
  have number := hexadecimal_of_lt c.toNat small
  have scalar : scalarValue? c.toNat = some c := by
    rw [scalarValue?, if_pos (by simp; omega), Char.ofNat_toNat]
  simp [readEscape?, readCode?, number, scalar]

theorem Shown.of_escape (long : Bool) {c : Char} (noQuote : c ≠ '"') :
    Shown long c ((escape? long c).getD [c]) := by
  unfold escape?
  split
  case h_3 =>
    cases long with
    | true => exact .lineFeed rfl rfl
    | false => exact .coded (by decide) fun _ => rfl
  case h_6 => exact .escaped (.inr rfl)
  case h_7 =>
    split
    · rename_i h
      exact .of_needsCode h
    · rename_i h
      refine .plain ?_ noQuote ‹_›
      simp_all [needsCode, isPlain]
  all_goals exact .coded (by decide) fun _ => rfl

/-! ## Strings on one line -/

/-- A backslash in front of a code, or any other character but a quote, is passed over. -/
theorem splitBasic_cons {c : Char} {s : List Char} (noQuote : c ≠ '"') (noLineEnd : c ≠ '\n')
    (escapes : c = '\\' → ∃ d code, s = d :: code ∧ isCode d) :
    splitBasic (c :: s) = (c :: (splitBasic s).1, (splitBasic s).2) := by
  rw [splitBasic]
  · exact noQuote
  · exact noLineEnd
  all_goals
    rintro _ rfl rfl
    obtain ⟨d, code, same, passed⟩ := escapes rfl
    cases same
    cases passed

theorem splitBasic_append {codes : List Char} (passed : codes.all isCode) (s : List Char) :
    splitBasic (codes ++ s) = (codes ++ (splitBasic s).1, (splitBasic s).2) := by
  induction codes with
  | nil => rfl
  | cons c codes ih =>
    simp only [List.all_cons, Bool.and_eq_true] at passed
    obtain ⟨first, others⟩ := passed
    rw [List.cons_append, splitBasic_cons, ih others]
    · rfl
    · rintro rfl
      cases first
    · rintro rfl
      cases first
    · rintro rfl
      cases first

theorem Shown.ne_nil {long : Bool} {c : Char} {u : List Char} (h : Shown long c u) : u ≠ [] := by
  cases h <;> nofun

theorem Shown.splitBasic {c : Char} {u : List Char} (h : Shown false c u) (s : List Char) :
    Toml.splitBasic (u ++ s) = (u ++ (Toml.splitBasic s).1, (Toml.splitBasic s).2) := by
  cases h with
  | plain plain noQuote noBackslash =>
    have noLineEnd : c ≠ '\n' := fun h => by simp [h, isPlain] at plain
    exact splitBasic_cons noQuote noLineEnd fun h => absurd h noBackslash
  | lineFeed several => cases several
  | escaped special => obtain rfl | rfl := special <;> rfl
  | @coded d code passed =>
    have behind : isCode d := (List.all_eq_true.mp passed) d List.mem_cons_self
    have backslash := splitBasic_cons (c := '\\') (s := d :: code ++ s) (by decide) (by decide)
      fun _ => ⟨d, code ++ s, rfl, behind⟩
    rw [List.cons_append, backslash, splitBasic_append passed]
    rfl

theorem Shown.readBasic? {c : Char} {u : List Char} (h : Shown false c u) (fuel : Nat)
    (s : List Char) :
    Toml.readBasic? (fuel + 1) (u ++ s) =
      (Toml.readBasic? fuel s).map fun (cs, after) => (c :: cs, after) := by
  cases h with
  | plain plain noQuote noBackslash => simp [Toml.readBasic?, noQuote, noBackslash, plain]
  | lineFeed several => cases several
  | escaped special => obtain rfl | rfl := special <;> simp [Toml.readBasic?, readEscape?]
  | coded passed reads =>
    rw [List.cons_append, Toml.readBasic?, reads]
    rfl

/-- In a string on one line every character stands apart from the others. -/
theorem escapedGo_false_cons (run : Nat) (c : Char) (s : List Char) :
    ∃ u, Shown false c u ∧ escapedGo false run (c :: s) = u ++ escapedGo false 0 s := by
  by_cases quote : c = '"'
  · exact ⟨['\\', c], .escaped (.inl quote), by simp [escapedGo, quote]⟩
  · refine ⟨_, .of_escape false quote, ?_⟩
    rw [escapedGo, if_neg (by simpa using quote)]
    cases escape? false c <;> rfl

theorem splitBasic_escaped (run : Nat) (s rest : List Char) :
    splitBasic (escapedGo false run s ++ '"' :: rest) = (escapedGo false run s ++ ['"'], rest) := by
  induction s generalizing run with
  | nil => rfl
  | cons c s ih =>
    obtain ⟨u, shown, eq⟩ := escapedGo_false_cons run c s
    rw [eq, List.append_assoc, shown.splitBasic, ih, List.append_assoc]

theorem readBasic?_escaped (run : Nat) (s rest : List Char) (fuel : Nat)
    (enough : (escapedGo false run s).length < fuel) :
    readBasic? fuel (escapedGo false run s ++ '"' :: rest) = some (s, rest) := by
  induction s generalizing run fuel with
  | nil =>
    obtain ⟨fuel, rfl⟩ := Nat.exists_eq_succ_of_ne_zero (Nat.ne_of_gt enough)
    rfl
  | cons c s ih =>
    obtain ⟨u, shown, eq⟩ := escapedGo_false_cons run c s
    have some := List.length_pos_iff.mpr shown.ne_nil
    rw [eq, List.length_append] at enough
    obtain ⟨fuel, rfl⟩ := Nat.exists_eq_succ_of_ne_zero (Nat.ne_of_gt (Nat.zero_lt_of_lt enough))
    rw [eq, List.append_assoc, shown.readBasic?, ih 0 fuel (by omega)]
    rfl

theorem splitLiteral_append {s : List Char} (noQuote : '\'' ∉ s) (noLineEnd : '\n' ∉ s)
    (rest : List Char) : splitLiteral (s ++ '\'' :: rest) = (s ++ ['\''], rest) := by
  induction s with
  | nil => rfl
  | cons c s ih =>
    simp only [List.mem_cons, not_or] at noQuote noLineEnd
    rw [List.cons_append, splitLiteral, ih noQuote.2 noLineEnd.2]
    · rfl
    · exact fun h => noQuote.1 h.symm
    · exact fun h => noLineEnd.1 h.symm

theorem readLiteral?_append {s : List Char} (noQuote : '\'' ∉ s) (plain : s.all isPlain)
    (rest : List Char) : readLiteral? (s ++ '\'' :: rest) = some (s, rest) := by
  induction s with
  | nil => rfl
  | cons c s ih =>
    simp only [List.mem_cons, not_or] at noQuote
    simp only [List.all_cons, Bool.and_eq_true] at plain
    rw [List.cons_append, readLiteral?, if_neg (by simpa using Ne.symm noQuote.1), if_pos plain.1,
      ih noQuote.2 plain.2]
    rfl

/-! ## Strings over several lines -/

/-- Right before the closing quotes, a text with few quotes in front is all quotes, or they are too few
for an end. -/
theorem closing?_append {q : Char} {s rest : List Char}
    (few : (s.takeWhile (· == q)).length ≤ 2) (apart : rest.head? ≠ some q) :
    closing? q (s ++ q :: q :: q :: rest) = if s.all (· == q) then some (s, rest) else none := by
  have stops : rest.takeWhile (· == q) = [] := by
    cases rest with
    | nil => rfl
    | cons c rest =>
      have other : c ≠ q := by simpa using apart
      simp [other]
  split
  · rename_i quotes
    have all : s = List.replicate s.length q :=
      List.eq_replicate_iff.mpr ⟨rfl, by simpa using quotes⟩
    have whole : s.takeWhile (· == q) = s := List.takeWhile_eq_self_iff.mpr (by simpa using quotes)
    rw [whole] at few
    have counted : ((s ++ q :: q :: q :: rest).takeWhile (· == q)).length = s.length + 3 := by
      simp [List.takeWhile_append, whole, stops]
    simp only [closing?, counted, Nat.add_sub_cancel, Nat.min_eq_left few, ← all]
    rw [if_neg (by omega), List.drop_length_add_append]
    rfl
  · rename_i other
    have partly : (s.takeWhile (· == q)).length ≠ s.length := fun same => other <| by
      have whole := (List.takeWhile_prefix (l := s) (· == q)).eq_of_length same
      simpa using List.takeWhile_eq_self_iff.mp whole
    rw [closing?, List.takeWhile_append, if_neg partly, if_pos (by omega)]

theorem closing?_of_ne {q c : Char} (other : c ≠ q) (s : List Char) : closing? q (c :: s) = none := by
  simp [closing?, other]

theorem splitLong_of_closing {q : Char} {escapes : Bool} {s own after : List Char}
    (closes : closing? q s = some (own, after)) :
    splitLong q escapes s = (own ++ [q, q, q], after) := by
  cases s with
  | nil => cases closes
  | cons c s => cases s <;> rw [splitLong, closes]

/-- Where the closing quotes do not follow, a backslash in front of a code, or any other character, is
passed over. -/
theorem splitLong_cons {q c : Char} {escapes : Bool} {s : List Char} (opened : closing? q (c :: s) = none)
    (codes : escapes = true → c = '\\' → ∃ d code, s = d :: code ∧ isCode d) :
    splitLong q escapes (c :: s) =
      (c :: (splitLong q escapes s).1, (splitLong q escapes s).2) := by
  cases s with
  | nil => simp [splitLong, opened]
  | cons d s =>
    rw [splitLong, opened]
    refine if_neg fun h => ?_
    simp only [Bool.and_eq_true, beq_iff_eq] at h
    obtain ⟨⟨on, backslash⟩, special⟩ := h
    obtain ⟨_, _, same, passed⟩ := codes on backslash
    cases same
    simp only [isCode, Bool.and_eq_true, bne_iff_ne] at passed
    simp [passed] at special

theorem splitLong_lineEnd {q : Char} (other : '\n' ≠ q) (escapes : Bool) (s : List Char) :
    splitLong q escapes ('\n' :: s) =
      ('\n' :: (splitLong q escapes s).1, (splitLong q escapes s).2) :=
  splitLong_cons (closing?_of_ne other s) fun _ h => absurd h (by decide)

theorem splitLong_append {codes : List Char} (passed : codes.all isCode) (s : List Char) :
    splitLong '"' true (codes ++ s) =
      (codes ++ (splitLong '"' true s).1, (splitLong '"' true s).2) := by
  induction codes with
  | nil => rfl
  | cons c codes ih =>
    simp only [List.all_cons, Bool.and_eq_true] at passed
    obtain ⟨first, others⟩ := passed
    have noQuote : c ≠ '"' := by
      rintro rfl
      cases first
    rw [List.cons_append, splitLong_cons (closing?_of_ne noQuote _), ih others]
    · rfl
    · rintro _ rfl
      cases first

theorem Shown.splitLong {c : Char} {u : List Char} (h : Shown true c u) (s : List Char) :
    Toml.splitLong '"' true (u ++ s) =
      (u ++ (Toml.splitLong '"' true s).1, (Toml.splitLong '"' true s).2) := by
  cases h with
  | plain plain noQuote noBackslash =>
    exact splitLong_cons (closing?_of_ne noQuote s) fun _ h => absurd h noBackslash
  | lineFeed _ same =>
    subst same
    exact splitLong_lineEnd (by decide) true s
  | escaped special =>
    have opened := closing?_of_ne (q := '"') (c := '\\') (by decide) (c :: s)
    change Toml.splitLong '"' true ('\\' :: c :: s) = _
    rw [Toml.splitLong, opened]
    obtain rfl | rfl := special <;> rfl
  | @coded d code passed =>
    have behind : isCode d := (List.all_eq_true.mp passed) d List.mem_cons_self
    have opened := closing?_of_ne (q := '"') (c := '\\') (by decide) (d :: code ++ s)
    have backslash := splitLong_cons opened fun (_ : true = true) _ => ⟨d, code ++ s, rfl, behind⟩
    rw [List.cons_append, backslash, splitLong_append passed]
    rfl

theorem dropLines_of_isCode {d : Char} (h : isCode d) (s : List Char) :
    dropLines false (d :: s) = (false, d :: s) := by
  simp only [isCode, Bool.and_eq_true, bne_iff_ne] at h
  obtain ⟨⟨⟨⟨⟨_, _⟩, noLineFeed⟩, noReturn⟩, noBlank⟩, noTab⟩ := h
  rw [dropLines]
  · simp [isLineBlank, noBlank, noTab]
  · exact noLineFeed
  · exact fun _ h => absurd h noReturn

theorem Shown.readLongBasic? {c : Char} {u : List Char} (h : Shown true c u) (fuel : Nat)
    (s : List Char) :
    Toml.readLongBasic? (fuel + 1) (u ++ s) =
      (Toml.readLongBasic? fuel s).map fun (cs, after) => (c :: cs, after) := by
  cases h with
  | plain plain noQuote noBackslash =>
    have noReturn : c ≠ '\r' := fun h => by simp [h, isPlain] at plain
    simp [Toml.readLongBasic?, closing?_of_ne noQuote, noBackslash, noReturn, plain]
  | lineFeed _ same =>
    subst same
    simp [Toml.readLongBasic?, closing?_of_ne]
  | escaped special =>
    obtain rfl | rfl := special <;>
      simp [Toml.readLongBasic?, closing?_of_ne, dropLines, isLineBlank, readEscape?]
  | @coded d code passed reads =>
    have behind : isCode d := (List.all_eq_true.mp passed) d List.mem_cons_self
    have opened := closing?_of_ne (q := '"') (c := '\\') (by decide) (d :: code ++ s)
    have kept := dropLines_of_isCode behind (code ++ s)
    simp only [List.cons_append] at opened kept reads ⊢
    simp [Toml.readLongBasic?, opened, kept, reads]

/-- Over several lines a quote may stand as itself, if it is not the third in a row. -/
theorem escapedGo_true_cons (run : Nat) (c : Char) (s : List Char) :
    (c = '"' ∧ run < 2 ∧ escapedGo true run (c :: s) = '"' :: escapedGo true (run + 1) s) ∨
      ∃ u, Shown true c u ∧ escapedGo true run (c :: s) = u ++ escapedGo true 0 s := by
  by_cases quote : c = '"'
  · by_cases few : run < 2
    · exact .inl ⟨quote, few, by simp [escapedGo, quote, few]⟩
    · exact .inr ⟨['\\', c], .escaped (.inl quote), by simp [escapedGo, quote, Nat.le_of_not_lt few]⟩
  · refine .inr ⟨_, .of_escape true quote, ?_⟩
    rw [escapedGo, if_neg (by simpa using quote)]
    cases escape? true c <;> rfl

/-- What a character begins with is no quote, and a line end only if the character is one. -/
theorem Shown.head {long : Bool} {c : Char} {u : List Char} (h : Shown long c u) :
    ∃ d code, u = d :: code ∧ d ≠ '"' ∧ d ≠ '\r' ∧ (d = '\n' → c = '\n') := by
  cases h with
  | plain plain noQuote =>
    refine ⟨c, [], rfl, noQuote, ?_, id⟩
    rintro rfl
    cases plain
  | lineFeed _ same => exact ⟨c, [], rfl, by simp [same]⟩
  | escaped => exact ⟨'\\', [c], rfl, by simp⟩
  | @coded d code => exact ⟨'\\', d :: code, rfl, by simp⟩

theorem length_takeWhile_escapedGo {run : Nat} (s : List Char) (few : run ≤ 2) :
    ((escapedGo true run s).takeWhile (· == '"')).length + run ≤ 2 := by
  induction s generalizing run with
  | nil => simpa [escapedGo] using few
  | cons c s ih =>
    obtain ⟨_, fewer, eq⟩ | ⟨u, shown, eq⟩ := escapedGo_true_cons run c s
    · have := @ih (run + 1) fewer
      simp only [eq, List.takeWhile_cons_of_pos, beq_self_eq_true, List.length_cons]
      omega
    · obtain ⟨d, code, rfl, noQuote, _⟩ := shown.head
      simpa [eq, noQuote] using few

/-- A string that is written as quotes only is that many quotes. -/
theorem eq_of_all_quotes {run : Nat} {s : List Char}
    (quotes : (escapedGo true run s).all (· == '"')) : escapedGo true run s = s := by
  induction s generalizing run with
  | nil => rfl
  | cons c s ih =>
    obtain ⟨rfl, _, eq⟩ | ⟨u, shown, eq⟩ := escapedGo_true_cons run c s
    · rw [eq] at quotes ⊢
      rw [ih (by simpa using quotes)]
    · obtain ⟨d, code, rfl, noQuote, _⟩ := shown.head
      simp [eq, noQuote] at quotes

section Basic

variable {run : Nat} {rest : List Char}

theorem closing?_escaped (s : List Char) (few : run ≤ 2) (apart : rest.head? ≠ some '"') :
    closing? '"' (escapedGo true run s ++ '"' :: '"' :: '"' :: rest) =
      if (escapedGo true run s).all (· == '"') then some (s, rest) else none := by
  have := length_takeWhile_escapedGo s few
  rw [closing?_append (by omega) apart]
  split
  · rename_i quotes
    rw [eq_of_all_quotes quotes]
  · rfl

theorem splitLong_escaped (s : List Char) (few : run ≤ 2) (apart : rest.head? ≠ some '"') :
    splitLong '"' true (escapedGo true run s ++ '"' :: '"' :: '"' :: rest) =
      (escapedGo true run s ++ ['"', '"', '"'], rest) := by
  induction s generalizing run with
  | nil => exact splitLong_of_closing (closing?_escaped [] few apart)
  | cons c s ih =>
    obtain ⟨rfl, fewer, eq⟩ | ⟨u, shown, eq⟩ := escapedGo_true_cons run c s
    -- a quote that stands as itself begins the end only if nothing but quotes follows
    · have closed := closing?_escaped ('"' :: s) few apart
      split at closed
      · rename_i quotes
        rw [splitLong_of_closing closed, eq_of_all_quotes quotes]
      · rw [eq, List.cons_append] at closed ⊢
        rw [splitLong_cons closed fun _ h => absurd h (by decide), ih fewer]
        rfl
    · rw [eq, List.append_assoc, shown.splitLong, ih (Nat.zero_le 2), List.append_assoc]

theorem readLongBasic?_of_closing {s own after : List Char} (fuel : Nat)
    (closes : closing? '"' s = some (own, after)) :
    readLongBasic? (fuel + 1) s = some (own, after) := by
  cases s with
  | nil => cases closes
  | cons c s => simp [readLongBasic?, closes]

theorem readLongBasic?_escaped (s : List Char) (few : run ≤ 2) (apart : rest.head? ≠ some '"')
    (fuel : Nat) (enough : (escapedGo true run s).length < fuel) :
    readLongBasic? fuel (escapedGo true run s ++ '"' :: '"' :: '"' :: rest) = some (s, rest) := by
  induction s generalizing run fuel with
  | nil =>
    obtain ⟨fuel, rfl⟩ := Nat.exists_eq_succ_of_ne_zero (Nat.ne_of_gt enough)
    exact readLongBasic?_of_closing fuel (closing?_escaped [] few apart)
  | cons c s ih =>
    obtain ⟨fuel, rfl⟩ := Nat.exists_eq_succ_of_ne_zero (Nat.ne_of_gt (Nat.zero_lt_of_lt enough))
    obtain ⟨rfl, fewer, eq⟩ | ⟨u, shown, eq⟩ := escapedGo_true_cons run c s
    · have closed := closing?_escaped ('"' :: s) few apart
      split at closed
      · exact readLongBasic?_of_closing fuel closed
      · rw [eq] at closed enough ⊢
        have read := ih fewer fuel (Nat.lt_of_succ_lt_succ enough)
        rw [List.cons_append] at closed ⊢
        simp [readLongBasic?, closed, read, isPlain]
    · have some := List.length_pos_iff.mpr shown.ne_nil
      rw [eq, List.length_append] at enough
      rw [eq, List.append_assoc, shown.readLongBasic?, ih (Nat.zero_le 2) fuel (by omega)]
      rfl

end Basic

theorem takeWhile_le_longestRunGo (q : Char) (s : List Char) (run : Nat) :
    run + (s.takeWhile (· == q)).length ≤ longestRunGo q s run := by
  induction s generalizing run with
  | nil => simp [longestRunGo]
  | cons c s ih =>
    rw [longestRunGo, List.takeWhile_cons]
    split
    · have := ih (run + 1)
      simp only [List.length_cons]
      omega
    · exact Nat.le_max_left ..

theorem longestRunGo_mono (q : Char) (s : List Char) {run run' : Nat} (h : run ≤ run') :
    longestRunGo q s run ≤ longestRunGo q s run' := by
  induction s generalizing run run' with
  | nil => exact h
  | cons c s ih =>
    rw [longestRunGo, longestRunGo]
    split
    · exact ih (Nat.succ_le_succ h)
    · omega

theorem longestRun_le_cons (q c : Char) (s : List Char) : longestRun q s ≤ longestRun q (c :: s) := by
  rw [longestRun, longestRun, longestRunGo]
  split
  · exact longestRunGo_mono q s (Nat.zero_le 1)
  · exact Nat.le_max_right ..

section Literal

variable {rest : List Char}

theorem closing?_literal {s : List Char} (few : longestRun '\'' s ≤ 2)
    (apart : rest.head? ≠ some '\'') :
    closing? '\'' (s ++ '\'' :: '\'' :: '\'' :: rest) =
      if s.all (· == '\'') then some (s, rest) else none := by
  have inFront := takeWhile_le_longestRunGo '\'' s 0
  rw [Nat.zero_add] at inFront
  exact closing?_append (inFront.trans few) apart

theorem splitLong_literal {s : List Char} (few : longestRun '\'' s ≤ 2)
    (apart : rest.head? ≠ some '\'') :
    splitLong '\'' false (s ++ '\'' :: '\'' :: '\'' :: rest) = (s ++ ['\'', '\'', '\''], rest) := by
  induction s with
  | nil => exact splitLong_of_closing (closing?_literal few apart)
  | cons c s ih =>
    have closed := closing?_literal few apart
    split at closed
    · exact splitLong_of_closing closed
    · rw [List.cons_append] at closed ⊢
      rw [splitLong_cons closed fun h => absurd h (by decide), ih ((longestRun_le_cons ..).trans few)]
      rfl

theorem readLongLiteral?_of_closing {s own after : List Char} (fuel : Nat)
    (closes : closing? '\'' s = some (own, after)) :
    readLongLiteral? (fuel + 1) s = some (own, after) := by
  cases s with
  | nil => cases closes
  | cons c s => simp [readLongLiteral?, closes]

theorem isPlain_of_not_needsCode {c : Char} (h : needsCode c = false) :
    isPlain c = true ∨ c = '\n' := by
  simp only [needsCode, isPlain, Bool.or_eq_false_iff, Bool.and_eq_false_iff, bne_eq_false_iff_eq,
    decide_eq_false_iff_not, beq_eq_false_iff_ne, UInt32.not_lt] at h ⊢
  obtain ⟨(low | rfl) | rfl, delete⟩ := h
  · left
    simp [low, delete]
  · exact .inl rfl
  · exact .inr rfl

theorem readLongLiteral?_literal {s : List Char} (few : longestRun '\'' s ≤ 2)
    (free : s.any needsCode = false) (apart : rest.head? ≠ some '\'') (fuel : Nat)
    (enough : s.length < fuel) :
    readLongLiteral? fuel (s ++ '\'' :: '\'' :: '\'' :: rest) = some (s, rest) := by
  induction s generalizing fuel with
  | nil =>
    obtain ⟨fuel, rfl⟩ := Nat.exists_eq_succ_of_ne_zero (Nat.ne_of_gt enough)
    exact readLongLiteral?_of_closing fuel (closing?_literal few apart)
  | cons c s ih =>
    obtain ⟨fuel, rfl⟩ := Nat.exists_eq_succ_of_ne_zero (Nat.ne_of_gt (Nat.zero_lt_of_lt enough))
    have closed := closing?_literal few apart
    split at closed
    · exact readLongLiteral?_of_closing fuel closed
    · rw [List.any_cons, Bool.or_eq_false_iff] at free
      have read := ih ((longestRun_le_cons ..).trans few) free.2 fuel (Nat.lt_of_succ_lt_succ enough)
      have noReturn : c ≠ '\r' := by
        rintro rfl
        cases free.1
      have stands : (isPlain c || c == '\n') = true := by
        simpa using isPlain_of_not_needsCode free.1
      rw [List.cons_append] at closed ⊢
      simp [readLongLiteral?, closed, read, noReturn, stands]

end Literal

/-! ## The four styles -/

/-- What stands behind the opening quotes of a string. -/
def Style.tail (s : List Char) : Style → List Char
  | basic => escapedGo false 0 s ++ ['"']
  | literal => s ++ ['\'']
  | longBasic => (if s.contains '\n' then ['\n'] else []) ++ escapedGo true 0 s ++ ['"', '"', '"']
  | longLiteral => (if s.contains '\n' then ['\n'] else []) ++ s ++ ['\'', '\'', '\'']

/-- The writer uses the style for the string: a literal one only if it shows the string. -/
def Style.Fits (s : List Char) : Style → Prop
  | basic | longBasic => True
  | literal => literal.shows s = true
  | longLiteral => longLiteral.shows s = true

/-- A text that does not begin with a quote. -/
def Unquoted (s : List Char) : Prop := s.head? ≠ some '"' ∧ s.head? ≠ some '\''

theorem readQuoted?_basic {s : List Char} (single : ∀ more, s ≠ '"' :: '"' :: more) :
    readQuoted? ('"' :: s) = some (.quoted .basic (splitBasic s).1, (splitBasic s).2) := by
  rw [readQuoted?]
  exact single

theorem readQuoted?_literal {s : List Char} (single : ∀ more, s ≠ '\'' :: '\'' :: more) :
    readQuoted? ('\'' :: s) = some (.quoted .literal (splitLiteral s).1, (splitLiteral s).2) := by
  rw [readQuoted?]
  exact single

theorem Style.of_shows_literal {s : List Char} (h : literal.shows s = true) :
    '\'' ∉ s ∧ '\n' ∉ s ∧ s.all isPlain := by
  simp only [shows, Bool.and_eq_true, Bool.not_eq_true', List.contains_eq_mem,
    decide_eq_false_iff_not, List.any_eq_false, Bool.not_eq_true] at h
  obtain ⟨⟨free, noQuote⟩, noLineEnd⟩ := h
  refine ⟨noQuote, noLineEnd, List.all_eq_true.mpr fun c there => ?_⟩
  obtain plain | rfl := isPlain_of_not_needsCode (free c there)
  · exact plain
  · exact absurd there noLineEnd

theorem Style.of_shows_longLiteral {s : List Char} (h : longLiteral.shows s = true) :
    s.any needsCode = false ∧ longestRun '\'' s ≤ 2 := by
  simpa only [shows, Bool.and_eq_true, Bool.not_eq_true', decide_eq_true_eq] using h

/-- The reader takes from a text exactly the string that was written in front of it. -/
theorem readQuoted?_write (style : Style) {s rest : List Char} (fits : style.Fits s)
    (apart : Unquoted rest) :
    readQuoted? (style.write s ++ rest) = some (.quoted style (style.tail s), rest) := by
  cases style with
  | basic =>
    have split := splitBasic_escaped 0 s rest
    have text : Style.basic.write s ++ rest = '"' :: (escapedGo false 0 s ++ '"' :: rest) := by
      simp [Style.write]
    rw [text, readQuoted?_basic, split]
    · rfl
    · intro more same
      cases s with
      | nil =>
        have second : rest = '"' :: more := (List.cons.inj same).2
        exact apart.1 (by simp [second])
      | cons c s =>
        obtain ⟨u, shown, eq⟩ := escapedGo_false_cons 0 c s
        obtain ⟨d, code, rfl, noQuote, _⟩ := shown.head
        rw [eq] at same
        exact noQuote (List.cons.inj same).1
  | literal =>
    obtain ⟨noQuote, noLineEnd, _⟩ := Style.of_shows_literal fits
    have split := splitLiteral_append noQuote noLineEnd rest
    have text : Style.literal.write s ++ rest = '\'' :: (s ++ '\'' :: rest) := by
      simp [Style.write]
    rw [text, readQuoted?_literal, split]
    · rfl
    · intro more same
      cases s with
      | nil =>
        have second : rest = '\'' :: more := (List.cons.inj same).2
        exact apart.2 (by simp [second])
      | cons c s => exact noQuote ((List.cons.inj same).1 ▸ List.mem_cons_self)
  | longBasic =>
    have split := splitLong_escaped s (Nat.zero_le 2) apart.1
    have text : Style.longBasic.write s ++ rest = '"' :: '"' :: '"' ::
        ((if s.contains '\n' then ['\n'] else []) ++
          (escapedGo true 0 s ++ '"' :: '"' :: '"' :: rest)) := by
      simp [Style.write]
    rw [text, readQuoted?, Style.tail]
    split
    · rw [List.singleton_append, splitLong_lineEnd (by decide), split]
      simp
    · rw [List.nil_append, split]
      simp
  | longLiteral =>
    have split := splitLong_literal (Style.of_shows_longLiteral fits).2 apart.2
    have text : Style.longLiteral.write s ++ rest = '\'' :: '\'' :: '\'' ::
        ((if s.contains '\n' then ['\n'] else []) ++ (s ++ '\'' :: '\'' :: '\'' :: rest)) := by
      simp [Style.write]
    rw [text, readQuoted?, Style.tail]
    split
    · rw [List.singleton_append, splitLong_lineEnd (by decide), split]
      simp
    · rw [List.nil_append, split]
      simp

/-- A line end right after the opening quotes is dropped; there is one if the string has line ends. -/
theorem dropLineEnd_append (s tail : List Char)
    (first : '\n' ∉ s → ∀ rest, tail ≠ '\n' :: rest ∧ tail ≠ '\r' :: rest) :
    dropLineEnd ((if s.contains '\n' then ['\n'] else []) ++ tail) = tail := by
  split
  · rfl
  · rename_i none
    obtain noLineEnd : '\n' ∉ s := by simpa using none
    rw [List.nil_append, dropLineEnd.eq_def]
    split
    · exact absurd rfl (first noLineEnd _).1
    · exact absurd rfl (first noLineEnd _).2
    · rfl

theorem content?_tail (style : Style) {s : List Char} (fits : style.Fits s) :
    style.content? (style.tail s) = some s := by
  cases style with
  | basic =>
    have read := readBasic?_escaped 0 s [] ((escapedGo false 0 s ++ ['"']).length + 1)
      (by rw [List.length_append]; omega)
    simp only [Style.content?, Style.tail, read]
  | literal =>
    obtain ⟨noQuote, _, plain⟩ := Style.of_shows_literal fits
    simp only [Style.content?, Style.tail, readLiteral?_append noQuote plain]
  | longBasic =>
    have dropped := dropLineEnd_append s (escapedGo true 0 s ++ ['"', '"', '"']) ?_
    · have apart : ([] : List Char).head? ≠ some '"' := (Option.some_ne_none _).symm
      have read := readLongBasic?_escaped s (Nat.zero_le 2) apart
        ((Style.longBasic.tail s).length + 1) (by simp [Style.tail]; omega)
      simp only [Style.tail, List.append_assoc] at read
      simp only [Style.content?, Style.tail, List.append_assoc, dropped, read]
    · intro noLineEnd rest
      cases s with
      | nil => simp [escapedGo]
      | cons c s =>
        obtain ⟨_, _, eq⟩ | ⟨u, shown, eq⟩ := escapedGo_true_cons 0 c s
        · simp [eq]
        · obtain ⟨d, code, rfl, _, noReturn, lineEnd⟩ := shown.head
          have : d ≠ '\n' := fun h => noLineEnd (lineEnd h ▸ List.mem_cons_self)
          simp [eq, this, noReturn]
  | longLiteral =>
    obtain ⟨free, few⟩ := Style.of_shows_longLiteral fits
    have dropped := dropLineEnd_append s (s ++ ['\'', '\'', '\'']) ?_
    · have apart : ([] : List Char).head? ≠ some '\'' := (Option.some_ne_none _).symm
      have read := readLongLiteral?_literal few free apart
        ((Style.longLiteral.tail s).length + 1) (by simp [Style.tail]; omega)
      simp only [Style.tail, List.append_assoc] at read
      simp only [Style.content?, Style.tail, List.append_assoc, dropped, read]
    · intro noLineEnd rest
      cases s with
      | nil => simp
      | cons c s =>
        rw [List.any_cons, Bool.or_eq_false_iff] at free
        have first : c ≠ '\n' := fun h => noLineEnd (h ▸ List.mem_cons_self)
        have second : c ≠ '\r' := by
          rintro rfl
          cases free.1
        simp [first, second]

theorem Style.fits_ofValue (s : List Char) : (Style.ofValue s).Fits s := by
  unfold ofValue
  split
  · trivial
  split
  · assumption
  split
  · trivial
  split
  · assumption
  split <;> trivial

/-! ## Control characters are written as escapes -/

private theorem needsCode_upperHexChar (n : Nat) : needsCode (Text.upperHexChar n) = false := by
  have digits : ∀ n < 16, needsCode (Text.upperHexChar n) = false := by decide
  have last : Text.upperHexChar n = Text.upperHexChar (n % 16) := by
    simp only [Text.upperHexChar, Nat.mod_mod]
  rw [last]
  exact digits _ (Nat.mod_lt n (by decide))

theorem any_needsCode_escape (long : Bool) (c : Char) :
    ((escape? long c).getD [c]).any needsCode = false := by
  unfold escape?
  split
  case h_3 => cases long <;> rfl
  case h_7 =>
    split
    · simp only [Option.getD_some, List.any_cons, List.any_nil, needsCode_upperHexChar]
      rfl
    · simp_all
  all_goals rfl

theorem any_needsCode_escapedGo (long : Bool) (run : Nat) (s : List Char) :
    (escapedGo long run s).any needsCode = false := by
  induction s generalizing run with
  | nil => rfl
  | cons c s ih =>
    have shown := any_needsCode_escape long c
    have quote : needsCode '"' = false := rfl
    have backslash : needsCode '\\' = false := rfl
    rw [escapedGo]
    split
    · split <;> split <;> simp only [List.any_cons, ih, quote, backslash, Bool.or_false]
    · split
      · rename_i e escaped
        rw [escaped, Option.getD_some] at shown
        rw [List.any_append, shown, ih]
        rfl
      · rename_i escaped
        rw [escaped, Option.getD_none, List.any_cons, List.any_nil, Bool.or_false] at shown
        rw [List.any_cons, shown, ih]
        rfl

/-- However a text is written, it is written without control characters. -/
theorem any_needsCode_quotedValue (s : String) : (quotedValue s).any needsCode = false := by
  have double : needsCode '"' = false := rfl
  have single : needsCode '\'' = false := rfl
  have lineEnd : (if s.toList.contains '\n' then ['\n'] else []).any needsCode = false := by
    split <;> rfl
  have fits := Style.fits_ofValue s.toList
  unfold quotedValue
  cases style : Style.ofValue s.toList with
  | basic => simp [Style.write, any_needsCode_escapedGo, double]
  | longBasic => simp only [Style.write, List.any_append, List.any_cons, any_needsCode_escapedGo, double, lineEnd]; rfl
  | literal =>
    rw [style] at fits
    simp only [Style.Fits, Style.shows, Bool.and_eq_true, Bool.not_eq_true'] at fits
    simp only [Style.write, List.any_append, List.any_cons, List.any_nil, fits, single]
    rfl
  | longLiteral =>
    rw [style] at fits
    have free := (Style.of_shows_longLiteral fits).1
    simp only [Style.write, List.any_append, List.any_cons, List.any_nil, free, single, lineEnd]
    rfl

end CompileDesk.Toml
