import CompileDesk.Json.Record
import CompileDesk.Proofs.Json.Steps
import CompileDesk.Proofs.Json.Texts

/-!
# What is read is skipped

Skipping checks less than reading does: it neither keeps a number within bounds nor pairs surrogates nor counts
how deep lists and objects are nested. So a value that is read is skipped too, and both end at the same place. The
induction is on the fuel of the reader; each step of it takes more characters than the skipper needs
fuel for.
-/

namespace CompileDesk.Json

variable {s rest after : List Char}

/-! ## Strings -/

theorem skipString_unit {digits : List Char} {n : Nat} (read : readUnit digits = .ok (n, after)) (fuel : Nat) :
    skipString (fuel + 1) ('\\' :: 'u' :: digits) = skipString fuel after := by
  rw [skipString, read]

theorem EscapeRead.skipString (h : EscapeRead s after) (fuel : Nat) (enough : s.length < fuel) :
    ∃ fuel', after.length < fuel' ∧ Json.skipString (fuel + 1) ('\\' :: s) = Json.skipString fuel' after := by
  cases h with
  | short notUnit isShort =>
    refine ⟨fuel, by simp at enough; omega, ?_⟩
    rw [Json.skipString, if_pos isShort]
    exact notUnit
  | unit read =>
    have length := length_of_readUnit read
    exact ⟨fuel, by simp at enough; omega, skipString_unit read fuel⟩
  | surrogates leading trailing =>
    have length := length_of_readUnit leading
    have length' := length_of_readUnit trailing
    simp only [List.length_cons] at length enough
    obtain ⟨fuel, rfl⟩ := Nat.exists_eq_add_one_of_ne_zero (n := fuel) (by omega)
    refine ⟨fuel, by omega, ?_⟩
    rw [skipString_unit leading, skipString_unit trailing]

theorem EscapeRead.length_lt (h : EscapeRead s after) : after.length < s.length := by
  cases h with
  | short => simp
  | unit read =>
    have length := length_of_readUnit read
    simp only [List.length_cons]
    omega
  | surrogates leading trailing =>
    have length := length_of_readUnit leading
    have length' := length_of_readUnit trailing
    simp only [List.length_cons] at length ⊢
    omega

theorem skipString_cons {c : Char} (noQuote : c ≠ '"') (noBackslash : c ≠ '\\') (fuel : Nat)
    (rest : List Char) : skipString (fuel + 1) (c :: rest) =
      if c.val < 0x20 then none else skipString fuel rest := by
  rw [skipString]
  · exact noQuote
  · exact fun _ same => absurd same noBackslash
  · exact fun _ _ same => absurd same noBackslash
  · exact fun same => absurd same noBackslash

theorem readStringGo_skips {fuel : Nat} {cs : List Char} (read : readStringGo fuel s = .ok (cs, after)) :
    after.length < s.length ∧ ∀ fuel', s.length < fuel' → skipString fuel' s = some after := by
  induction fuel generalizing s cs with
  | zero => cases read
  | succ fuel ih =>
    cases s with
    | nil => cases read
    | cons c rest =>
      by_cases quote : c = '"'
      · subst quote
        cases read
        refine ⟨Nat.lt_succ_self _, fun fuel' enough => ?_⟩
        obtain ⟨fuel', rfl⟩ := Nat.exists_eq_add_one_of_ne_zero (Nat.ne_zero_of_lt enough)
        rfl
      by_cases backslash : c = '\\'
      · subst backslash
        rw [readStringGo_escape] at read
        obtain ⟨c, more, escape, read⟩ := Reading.andThen_eq_ok read
        obtain ⟨cs, last, others, read⟩ := Reading.andThen_eq_ok read
        cases read
        obtain ⟨shorter, skips⟩ := ih others
        have escape := escapeRead_of_readEscape escape
        have length := escape.length_lt
        refine ⟨by simp only [List.length_cons]; omega, fun fuel' enough => ?_⟩
        simp only [List.length_cons] at enough
        obtain ⟨fuel', rfl⟩ := Nat.exists_eq_add_one_of_ne_zero (Nat.ne_zero_of_lt enough)
        obtain ⟨left, room, same⟩ := escape.skipString fuel' (by omega)
        rw [same, skips left room]
      · rw [readStringGo_cons quote backslash] at read
        split at read
        · cases read
        · rename_i printed
          obtain ⟨cs, last, others, read⟩ := Reading.andThen_eq_ok read
          cases read
          obtain ⟨shorter, skips⟩ := ih others
          refine ⟨shorter.trans (Nat.lt_succ_self _), fun fuel' enough => ?_⟩
          simp only [List.length_cons] at enough
          obtain ⟨fuel', rfl⟩ := Nat.exists_eq_add_one_of_ne_zero (Nat.ne_zero_of_lt enough)
          rw [skipString_cons quote backslash, if_neg printed, skips fuel' (by omega)]

theorem readString_skips {text : String} (read : readString s = .ok (text, after)) :
    after.length < s.length ∧ skipString (s.length + 1) s = some after := by
  obtain ⟨cs, last, content, read⟩ := Reading.andThen_eq_ok read
  cases read
  obtain ⟨shorter, skips⟩ := readStringGo_skips content
  exact ⟨shorter, skips _ (Nat.lt_succ_self _)⟩

/-! ## Numbers -/

section Digits

-- The bound on what is kept is never to be counted down to.
attribute [local irreducible] pushDigit?

theorem readWhole_cons (significand dropped : Nat) (c : Char) (rest : List Char) :
    readWhole significand dropped (c :: rest) =
      if Text.isDigit c then
        if dropped > 0 then readWhole significand (dropped + 1) rest
        else match pushDigit? significand c with
          | some next => readWhole next 0 rest
          | none => readWhole significand 1 rest
      else (significand, dropped, c :: rest) := rfl

theorem readPlaces_cons (significand kept : Nat) (c : Char) (rest : List Char) :
    readPlaces significand kept (c :: rest) =
      if Text.isDigit c then
        match pushDigit? significand c with
        | some next => readPlaces next (kept + 1) rest
        | none => (significand, kept, rest.dropWhile Text.isDigit)
      else (significand, kept, c :: rest) := rfl

end Digits

theorem readWhole_rest (significand dropped : Nat) (s : List Char) :
    (readWhole significand dropped s).2.2 = s.dropWhile Text.isDigit := by
  induction s generalizing significand dropped with
  | nil => rfl
  | cons c rest ih =>
    rw [readWhole_cons]
    split
    · rename_i digit
      rw [List.dropWhile_cons_of_pos digit]
      split
      · exact ih _ _
      · split
        · exact ih _ _
        · exact ih _ _
    · rename_i other
      exact (List.dropWhile_cons_of_neg other).symm

theorem readPlaces_rest (significand kept : Nat) (s : List Char) :
    (readPlaces significand kept s).2.2 = s.dropWhile Text.isDigit := by
  induction s generalizing significand kept with
  | nil => rfl
  | cons c rest ih =>
    rw [readPlaces_cons]
    split
    · rename_i digit
      rw [List.dropWhile_cons_of_pos digit]
      split
      · exact ih _ _
      · rfl
    · rename_i other
      exact (List.dropWhile_cons_of_neg other).symm

theorem readExponentDigits_rest (value : Nat) (s : List Char) :
    (readExponentDigits value s).2.1 = s.dropWhile Text.isDigit := by
  induction s generalizing value with
  | nil => rfl
  | cons c rest ih =>
    rw [readExponentDigits]
    split
    · rename_i digit
      rw [List.dropWhile_cons_of_pos digit]
      dsimp only
      split
      · exact ih _
      · rfl
    · rename_i other
      exact (List.dropWhile_cons_of_neg other).symm

theorem scaled_eq_ok {negative : Bool} {k : Kept} {n : JsonNumber}
    (read : scaled negative k s = .ok (n, after)) : after = s := by
  unfold scaled at read
  split at read
  · cases read
    rfl
  · cases read

section Numbers

variable {negative : Bool} {k : Kept} {n : JsonNumber}

theorem skipDigits_cons {c : Char} (digit : Text.isDigit c) (s : List Char) :
    skipDigits (c :: s) = some (s.dropWhile Text.isDigit) := if_pos digit

theorem skipExponent_bare (noPlus : ∀ rest, s ≠ '+' :: rest) (noMinus : ∀ rest, s ≠ '-' :: rest) :
    skipExponent s = skipDigits s := by
  rw [skipExponent]
  · exact noPlus
  · exact noMinus

theorem skipScale_bare (noSmall : ∀ rest, s ≠ 'e' :: rest) (noLarge : ∀ rest, s ≠ 'E' :: rest) :
    skipScale s = some s := by
  rw [skipScale]
  · exact noSmall
  · exact noLarge

theorem readExponent_skips (read : readExponent negative k s = .ok (n, after)) :
    skipExponent s = some after := by
  unfold readExponent at read
  split at read
  rename_i down digits signed
  have same : skipExponent s = skipDigits digits := by
    split at signed
    · cases signed
      rfl
    · cases signed
      rfl
    · rename_i noPlus noMinus
      cases signed
      exact skipExponent_bare noPlus noMinus
  rw [same]
  split at read
  · cases read
  · rename_i c rest
    split at read
    · rename_i digit
      rw [skipDigits_cons digit, ← readExponentDigits_rest (Text.digitValue c)]
      split at read
      · rename_i value after' counted
        rw [counted, scaled_eq_ok read]
      · rename_i value after' excess counted
        rw [counted]
        split at read
        · cases read
        · cases read
          rfl
    · cases read

theorem readAfterPlaces_skips (read : readAfterPlaces negative k s = .ok (n, after)) :
    skipScale s = some after := by
  unfold readAfterPlaces at read
  split at read
  · exact readExponent_skips read
  · exact readExponent_skips read
  · rename_i noSmall noLarge
    rw [scaled_eq_ok read]
    exact skipScale_bare noSmall noLarge

/-- Where no digit follows the point, none is read. -/
theorem readPlaces_of_no_digit (significand : Nat) (noDigit : s.head?.map Text.isDigit ≠ some true) :
    readPlaces significand 0 s = (significand, 0, s) := by
  cases s with
  | nil => rfl
  | cons c rest =>
    have other : ¬ Text.isDigit c := by simpa using noDigit
    rw [readPlaces_cons, if_neg other]

theorem skipDigits_of_digit (digit : s.head?.map Text.isDigit = some true) :
    skipDigits s = some (s.dropWhile Text.isDigit) := by
  cases s with
  | nil => cases digit
  | cons c rest =>
    have digit : Text.isDigit c := by simpa using digit
    rw [skipDigits, if_pos digit, List.dropWhile_cons_of_pos digit]

theorem readAfterWhole_skips {significand dropped : Nat}
    (read : readAfterWhole negative significand dropped s = .ok (n, after)) :
    skipFraction s = some after := by
  unfold readAfterWhole at read
  split at read
  · rename_i rest
    by_cases digit : rest.head?.map Text.isDigit = some true
    · simp only [digit, bne_self_eq_false, Bool.and_false, Bool.false_eq_true, ↓reduceIte] at read
      change (skipDigits rest).bind skipScale = some after
      rw [skipDigits_of_digit digit, ← readPlaces_rest significand 0, Option.bind_some,
        readAfterPlaces_skips read]
    · rw [readPlaces_of_no_digit significand digit] at read
      simp only [beq_self_eq_true, Bool.true_and, bne_iff_ne, ne_eq, digit, not_false_eq_true,
        ↓reduceIte] at read
      split at read <;> cases read
  · exact readExponent_skips read
  · exact readExponent_skips read
  · rename_i noPoint noSmall noLarge
    have ends : after = s := by
      split at read
      · cases read
        rfl
      · exact scaled_eq_ok read
    rw [ends, skipFraction]
    · exact skipScale_bare noSmall noLarge
    · exact noPoint

theorem readNumber_skips (read : readNumber negative s = .ok (n, after)) : skipNumber s = some after := by
  unfold readNumber at read
  split at read
  · cases read
  · rename_i rest
    have plain : readAfterWhole negative 0 0 rest = .ok (n, after) ∧
        rest.head?.map Text.isDigit ≠ some true := by
      split at read
      · rename_i c more
        split at read
        · cases read
        · rename_i other
          exact ⟨read, by simpa using other⟩
      · exact ⟨read, by simp⟩
    simp only [skipNumber, beq_self_eq_true, ↓reduceIte, beq_iff_eq, plain.2]
    exact readAfterWhole_skips plain.1
  · rename_i c rest notZero
    split at read
    · rename_i digit
      have other : (c == '0') = false := beq_false_of_ne notZero
      simp only [skipNumber, other, Bool.false_eq_true, ↓reduceIte, digit]
      rw [← readWhole_rest (Text.digitValue c) 0]
      exact readAfterWhole_skips read
    · cases read

end Numbers

/-! ## No skipping goes backwards -/

theorem length_of_skipDigits (skipped : skipDigits s = some after) : after.length < s.length := by
  cases s with
  | nil => cases skipped
  | cons c rest =>
    rw [skipDigits] at skipped
    split at skipped
    · cases skipped
      exact Nat.lt_succ_of_le (List.dropWhile_suffix _).length_le
    · cases skipped

theorem length_of_skipExponent (skipped : skipExponent s = some after) : after.length < s.length := by
  unfold skipExponent at skipped
  split at skipped
  · exact (length_of_skipDigits skipped).trans (Nat.lt_succ_self _)
  · exact (length_of_skipDigits skipped).trans (Nat.lt_succ_self _)
  · exact length_of_skipDigits skipped

theorem length_of_skipScale (skipped : skipScale s = some after) : after.length ≤ s.length := by
  unfold skipScale at skipped
  split at skipped
  · exact (length_of_skipExponent skipped).le.trans (Nat.le_succ _)
  · exact (length_of_skipExponent skipped).le.trans (Nat.le_succ _)
  · cases skipped
    exact le_rfl

theorem length_of_skipFraction (skipped : skipFraction s = some after) : after.length ≤ s.length := by
  unfold skipFraction at skipped
  split at skipped
  · obtain ⟨mid, digits, scale⟩ := Option.bind_eq_some_iff.mp skipped
    have shorter := length_of_skipDigits digits
    have shorter' := length_of_skipScale scale
    simp only [List.length_cons]
    omega
  · exact length_of_skipScale skipped

theorem length_of_skipNumber (skipped : skipNumber s = some after) : after.length < s.length := by
  unfold skipNumber at skipped
  split at skipped
  · cases skipped
  · split at skipped
    · split at skipped
      · cases skipped
      · exact Nat.lt_succ_of_le (length_of_skipFraction skipped)
    · split at skipped
      · have shorter := length_of_skipFraction skipped
        have digits := (List.dropWhile_suffix (l := ‹List Char›) Text.isDigit).length_le
        simp only [List.length_cons]
        omega
      · cases skipped

/-! ## Values -/

/-- A text is skipped up to some rest. Two units of fuel for each character, and some to spare, are enough. -/
structure Skips (skip : Nat → List Char → Option (List Char)) (spare : Nat) (s after : List Char) : Prop where
  shorter : after.length < s.length
  skips : ∀ fuel, 2 * (s.length - after.length) + spare ≤ fuel → skip fuel s = some after

theorem skipValue_skipSpace (fuel : Nat) (s : List Char) : skipValue fuel (skipSpace s) = skipValue fuel s := by
  cases fuel with
  | zero => rfl
  | succ fuel => rw [skipValue, skipValue, skipSpace, skipSpace, List.dropWhile_idempotent]

theorem beq_of_isDigit {c d : Char} (digit : Text.isDigit c) (special : d ∈ ['n', 't', 'f', '-', '"']) :
    (c == d) = false := by
  refine beq_false_of_ne ?_
  rintro rfl
  simp only [List.mem_cons, List.not_mem_nil, or_false] at special
  rcases special with rfl | rfl | rfl | rfl | rfl <;> cases digit

section Values

variable {fuel depth : Nat} {first : Bool} {v : Json} {c : Char}

theorem Skips.of_front (front : skipSpace s = c :: rest) (shorter : after.length ≤ rest.length)
    (skips : ∀ fuel, 2 * (rest.length - after.length) < fuel → skipValue (fuel + 1) s = some after) :
    Skips skipValue 0 s after := by
  have length := length_skipSpace_le s
  rw [front, List.length_cons] at length
  refine ⟨by omega, fun fuel enough => ?_⟩
  obtain ⟨fuel, rfl⟩ := Nat.exists_eq_add_one_of_ne_zero (n := fuel) (by omega)
  exact skips fuel (by omega)

theorem length_of_readLetters {letters : List Char} (read : readLetters letters s = .ok after) :
    after.length ≤ s.length := by
  rw [readLetters_eq_ok read, List.length_append]
  exact Nat.le_add_left _ _

theorem ValueRead.skips (h : ValueRead fuel depth c rest v after) (front : skipSpace s = c :: rest)
    (items : ∀ items, readItems fuel (depth - 1) true rest = .ok (items, after) →
      Skips (skipItems · true) 1 rest after)
    (fields : ∀ fields, readFields fuel (depth - 1) true rest = .ok (fields, after) →
      Skips (skipFields · true) 1 rest after) :
    Skips skipValue 0 s after := by
  cases h with
  | null letters | yes letters | no letters =>
    refine .of_front front (length_of_readLetters letters) fun fuel _ => ?_
    rw [skipValue, front]
    exact congrArg Except.toOption letters
  | negative number =>
    have skipped := readNumber_skips number
    refine .of_front front (length_of_skipNumber skipped).le fun fuel _ => ?_
    rw [skipValue, front]
    exact skipped
  | number digit number =>
    have skipped := readNumber_skips number
    refine .of_front front (Nat.le_of_lt_succ (length_of_skipNumber skipped)) fun fuel _ => ?_
    have other {d : Char} := beq_of_isDigit (d := d) digit
    rw [skipValue, front]
    simp only [other (d := 'n') (by decide), other (d := 't') (by decide), other (d := 'f') (by decide),
      other (d := '-') (by decide), Bool.false_eq_true, ↓reduceIte, digit]
    exact skipped
  | string content =>
    obtain ⟨shorter, skipped⟩ := readString_skips content
    refine .of_front front shorter.le fun fuel _ => ?_
    rw [skipValue, front]
    exact skipped
  | array each =>
    obtain ⟨shorter, skips⟩ := items _ each
    refine .of_front front shorter.le fun fuel enough => ?_
    rw [skipValue, front]
    exact skips fuel enough
  | object each =>
    obtain ⟨shorter, skips⟩ := fields _ each
    refine .of_front front shorter.le fun fuel enough => ?_
    rw [skipValue, front]
    exact skips fuel enough

theorem Begins.length_le {t : List Char} (h : Begins first s t) : t.length ≤ s.length := by
  cases h with
  | first front =>
    rw [← front]
    exact length_skipSpace_le s
  | @comma _ _ rest front behind =>
    have length := length_skipSpace_le s
    have length' := length_skipSpace_le rest
    rw [front, List.length_cons] at length
    rw [behind] at length'
    omega

theorem skipItems_of_begins {more : List Char} (begins : Begins first s (c :: more)) (other : c ≠ ']')
    (fuel : Nat) : skipItems (fuel + 1) first s =
      (skipValue fuel (c :: more)).bind (skipItems fuel false) := by
  have noEnd : (c == ']') = false := beq_false_of_ne other
  cases begins with
  | first front =>
    rw [skipItems, front]
    simp only [noEnd, Bool.false_eq_true, ↓reduceIte]
  | @comma _ _ rest front behind =>
    have same : skipValue fuel rest = skipValue fuel (c :: more) := by
      rw [← behind, skipValue_skipSpace]
    rw [skipItems, front, ← same]
    simp [behind, other]

theorem skipItems_end (ends : skipSpace s = ']' :: after) (fuel : Nat) (first : Bool) :
    skipItems (fuel + 1) first s = some after := by
  rw [skipItems, ends]
  rfl

theorem skipFields_end (ends : skipSpace s = '\x7d' :: after) (fuel : Nat) (first : Bool) :
    skipFields (fuel + 1) first s = some after := by
  rw [skipFields, ends]
  rfl

theorem skipFields_of_begins {more mid value : List Char} {name : String}
    (begins : Begins first s ('"' :: more)) (key : readString more = .ok (name, mid))
    (colon : skipSpace mid = ':' :: value) (fuel : Nat) :
    skipFields (fuel + 1) first s = (skipValue fuel value).bind (skipFields fuel false) := by
  have skipped := (readString_skips key).2
  cases begins with
  | first front =>
    rw [skipFields, front]
    simp [skipSpace_cons (c := '"') rfl, skipped, colon]
  | comma front behind =>
    rw [skipFields, front]
    simp [behind, skipped, colon]

theorem ItemsRead.skips {items : List Json} (h : ItemsRead fuel depth first s items after)
    (value : ∀ t v last, readValue fuel depth t = .ok (v, last) → Skips skipValue 0 t last)
    (others : ∀ t vs last, readItems fuel depth false t = .ok (vs, last) →
      Skips (skipItems · false) 1 t last) :
    Skips (skipItems · first) 1 s after := by
  cases h with
  | done ends =>
    have length := length_skipSpace_le s
    rw [ends, List.length_cons] at length
    refine ⟨by omega, fun fuel enough => ?_⟩
    obtain ⟨fuel, rfl⟩ := Nat.exists_eq_add_one_of_ne_zero (n := fuel) (by omega)
    exact skipItems_end ends fuel first
  | item begins other read rest =>
    obtain ⟨shorter, skips⟩ := value _ _ _ read
    obtain ⟨shorter', skips'⟩ := others _ _ _ rest
    have length := begins.length_le
    refine ⟨by omega, fun fuel enough => ?_⟩
    obtain ⟨fuel, rfl⟩ := Nat.exists_eq_add_one_of_ne_zero (n := fuel) (by omega)
    rw [skipItems_of_begins begins other, skips fuel (by omega), Option.bind_some]
    exact skips' fuel (by omega)

theorem FieldsRead.skips {fields : List (String × Json)} (h : FieldsRead fuel depth first s fields after)
    (value : ∀ t v last, readValue fuel depth t = .ok (v, last) → Skips skipValue 0 t last)
    (others : ∀ t vs last, readFields fuel depth false t = .ok (vs, last) →
      Skips (skipFields · false) 1 t last) :
    Skips (skipFields · first) 1 s after := by
  cases h with
  | done ends =>
    have length := length_skipSpace_le s
    rw [ends, List.length_cons] at length
    refine ⟨by omega, fun fuel enough => ?_⟩
    obtain ⟨fuel, rfl⟩ := Nat.exists_eq_add_one_of_ne_zero (n := fuel) (by omega)
    exact skipFields_end ends fuel first
  | @field more mid text last _ _ _ _ begins key colon content rest =>
    obtain ⟨shorter, skips⟩ := value _ _ _ content
    obtain ⟨shorter', skips'⟩ := others _ _ _ rest
    have length := begins.length_le
    have named := (readString_skips key).1
    have behind := length_skipSpace_le mid
    rw [colon] at behind
    simp only [List.length_cons] at length behind
    refine ⟨by omega, fun fuel enough => ?_⟩
    obtain ⟨fuel, rfl⟩ := Nat.exists_eq_add_one_of_ne_zero (n := fuel) (by omega)
    rw [skipFields_of_begins begins key colon, skips fuel (by omega), Option.bind_some]
    exact skips' fuel (by omega)

/-- What is read is skipped, up to the same place. -/
theorem reading_skips (fuel : Nat) :
    (∀ depth s v after, readValue fuel depth s = .ok (v, after) → Skips skipValue 0 s after) ∧
    (∀ depth first s items after, readItems fuel depth first s = .ok (items, after) →
      Skips (skipItems · first) 1 s after) ∧
    ∀ depth first s fields after, readFields fuel depth first s = .ok (fields, after) →
      Skips (skipFields · first) 1 s after := by
  induction fuel with
  | zero => refine ⟨?_, ?_, ?_⟩ <;> intros <;> contradiction
  | succ fuel ih =>
    obtain ⟨value, items, fields⟩ := ih
    refine ⟨?_, ?_, ?_⟩
    · intro depth s v after read
      obtain ⟨c, rest, front, read⟩ := readValue_cases read
      exact read.skips front (fun _ => items _ _ _ _ _) fun _ => fields _ _ _ _ _
    · intro depth first s _ after read
      exact (readItems_cases read).skips (value depth) (items depth false)
    · intro depth first s _ after read
      exact (readFields_cases read).skips (value depth) (fields depth false)

theorem readValue_skips (read : readValue fuel depth s = .ok (v, after)) : Skips skipValue 0 s after :=
  (reading_skips fuel).1 depth s v after read

end Values

end CompileDesk.Json
