import CompileDesk.Json.Reader
import CompileDesk.Proofs.Results
import Mathlib.Data.List.Infix

/-!
# The steps of a reader

What a reader finds where it succeeds: an escape in one of its forms, a value by its first character, and
the end of a list or of an object or its next part. Each step names the calls that read the parts.
-/

namespace CompileDesk.Json

variable {s rest after : List Char}

/-! ## Strings -/

theorem Reading.andThen_eq_ok {α β : Type} {r : Reading α} {next : α → List Char → Except Failure β} {b : β}
    (h : r.andThen next = .ok b) : ∃ a after, r = .ok (a, after) ∧ next a after = .ok b := by
  match r with
  | .ok (a, after) => exact ⟨a, after, rfl, h⟩
  | .error f => cases h

theorem length_skipSpace_le (s : List Char) : (skipSpace s).length ≤ s.length :=
  (List.dropWhile_suffix _).length_le

theorem readLetters_eq_ok {letters : List Char} (read : readLetters letters s = .ok after) :
    s = letters ++ after := by
  fun_induction readLetters letters s with
  | case1 s => simpa using read
  | case2 => cases read
  | case3 c letters d rest same ih =>
    rw [ih read, eq_of_beq same]
    rfl
  | case4 => cases read

theorem length_of_readUnit {n : Nat} (read : readUnit s = .ok (n, after)) : s.length = after.length + 4 := by
  unfold readUnit at read
  split at read
  · split at read
    · cases read
      rfl
    · cases read
  · split at read <;> cases read

/-- An escape is a letter, the number of a code unit, or the numbers of two surrogates. -/
inductive EscapeRead : List Char → List Char → Prop where
  | short {letter : Char} {after : List Char} (notUnit : letter ≠ 'u') (isShort : (shortEscape? letter).isSome) :
      EscapeRead (letter :: after) after
  | unit {digits after : List Char} {n : Nat} (read : readUnit digits = .ok (n, after)) :
      EscapeRead ('u' :: digits) after
  | surrogates {digits digits' after : List Char} {n n' : Nat}
      (leading : readUnit digits = .ok (n, '\\' :: 'u' :: digits'))
      (trailing : readUnit digits' = .ok (n', after)) : EscapeRead ('u' :: digits) after

theorem readTrailing_eq_ok {n : Nat} {c : Char} (read : readTrailing n s = .ok (c, after)) :
    ∃ digits n', s = '\\' :: 'u' :: digits ∧ readUnit digits = .ok (n', after) := by
  unfold readTrailing at read
  split at read
  · cases read
  · cases read
  · rename_i digits
    obtain ⟨n', more, unit, read⟩ := Reading.andThen_eq_ok read
    split at read
    · cases read
    · simp only [Except.ok.injEq, Prod.mk.injEq] at read
      exact ⟨digits, n', rfl, read.2 ▸ unit⟩
  · cases read
  · cases read

theorem escapeRead_of_readEscape {c : Char} (read : readEscape s = .ok (c, after)) :
    EscapeRead s after := by
  unfold readEscape at read
  split at read
  · cases read
  · obtain ⟨n, more, unit, read⟩ := Reading.andThen_eq_ok read
    split at read
    · cases read
    · split at read
      · obtain ⟨digits', n', rfl, unit'⟩ := readTrailing_eq_ok read
        exact .surrogates unit unit'
      · cases read
        exact .unit unit
  · rename_i letter rest notUnit
    split at read
    · rename_i d short
      cases read
      exact .short notUnit (by rw [short]; rfl)
    · cases read

/-! ## Values -/

/-- A value by its first character and the text behind that, with the calls that read its parts. -/
inductive ValueRead (fuel depth : Nat) : Char → List Char → Json → List Char → Prop where
  | null {rest after : List Char} (letters : readLetters "ull".toList rest = .ok after) :
      ValueRead fuel depth 'n' rest .null after
  | yes {rest after : List Char} (letters : readLetters "rue".toList rest = .ok after) :
      ValueRead fuel depth 't' rest (.bool true) after
  | no {rest after : List Char} (letters : readLetters "alse".toList rest = .ok after) :
      ValueRead fuel depth 'f' rest (.bool false) after
  | negative {rest after : List Char} {n : JsonNumber} (number : readNumber true rest = .ok (n, after)) :
      ValueRead fuel depth '-' rest (.number n) after
  | number {c : Char} {rest after : List Char} {n : JsonNumber} (digit : Text.isDigit c)
      (number : readNumber false (c :: rest) = .ok (n, after)) :
      ValueRead fuel depth c rest (.number n) after
  | string {rest after : List Char} {text : String} (content : readString rest = .ok (text, after)) :
      ValueRead fuel depth '"' rest (.string text) after
  | array {rest after : List Char} {items : List Json}
      (each : readItems fuel (depth - 1) true rest = .ok (items, after)) :
      ValueRead fuel depth '[' rest (.array items) after
  | object {rest after : List Char} {fields : List (String × Json)}
      (each : readFields fuel (depth - 1) true rest = .ok (fields, after)) :
      ValueRead fuel depth '\x7b' rest (.object fields) after

theorem readValue_cases {fuel depth : Nat} {v : Json} (read : readValue (fuel + 1) depth s = .ok (v, after)) :
    ∃ c rest, skipSpace s = c :: rest ∧ ValueRead fuel depth c rest v after := by
  rw [readValue] at read
  split at read
  · cases read
  · rename_i c rest front
    refine ⟨c, rest, front, ?_⟩
    split at read
    · rename_i same
      obtain rfl := eq_of_beq same
      obtain ⟨last, letters, same⟩ := exists_of_map_eq_ok read
      cases same
      exact .null letters
    split at read
    · rename_i same
      obtain rfl := eq_of_beq same
      obtain ⟨last, letters, same⟩ := exists_of_map_eq_ok read
      cases same
      exact .yes letters
    split at read
    · rename_i same
      obtain rfl := eq_of_beq same
      obtain ⟨last, letters, same⟩ := exists_of_map_eq_ok read
      cases same
      exact .no letters
    split at read
    · rename_i same
      obtain rfl := eq_of_beq same
      obtain ⟨n, last, number, same⟩ := Reading.andThen_eq_ok read
      cases same
      exact .negative number
    split at read
    · rename_i digit
      obtain ⟨n, last, number, same⟩ := Reading.andThen_eq_ok read
      cases same
      exact .number digit number
    split at read
    · rename_i same
      obtain rfl := eq_of_beq same
      obtain ⟨text, last, content, same⟩ := Reading.andThen_eq_ok read
      cases same
      exact .string content
    split at read
    · rename_i same
      obtain rfl := eq_of_beq same
      split at read
      · cases read
      · obtain ⟨items, last, each, same⟩ := Reading.andThen_eq_ok read
        cases same
        exact .array each
    split at read
    · rename_i same
      obtain rfl := eq_of_beq same
      split at read
      · cases read
      · obtain ⟨fields, last, each, same⟩ := Reading.andThen_eq_ok read
        cases same
        exact .object each
    · cases read

/-- The text begins here, or behind a comma if something stands in front of it. -/
inductive Begins : Bool → List Char → List Char → Prop where
  | first {s t : List Char} (front : skipSpace s = t) : Begins true s t
  | comma {s t rest : List Char} (front : skipSpace s = ',' :: rest) (behind : skipSpace rest = t) :
      Begins false s t

/-- The end of a list or its next item, with the calls that read it and the others. -/
inductive ItemsRead (fuel depth : Nat) (first : Bool) (s : List Char) : List Json → List Char → Prop where
  | done {after : List Char} (ends : skipSpace s = ']' :: after) : ItemsRead fuel depth first s [] after
  | item {c : Char} {more mid after : List Char} {v : Json} {items : List Json}
      (begins : Begins first s (c :: more)) (other : c ≠ ']')
      (value : readValue fuel depth (c :: more) = .ok (v, mid))
      (others : readItems fuel depth false mid = .ok (items, after)) :
      ItemsRead fuel depth first s (v :: items) after

/-- The end of an object or its next field, with the calls that read it and the others. -/
inductive FieldsRead (fuel depth : Nat) (first : Bool) (s : List Char) :
    List (String × Json) → List Char → Prop where
  | done {after : List Char} (ends : skipSpace s = '\x7d' :: after) : FieldsRead fuel depth first s [] after
  | field {more mid value last after : List Char} {name : String} {v : Json} {fields : List (String × Json)}
      (begins : Begins first s ('"' :: more)) (key : readString more = .ok (name, mid))
      (colon : skipSpace mid = ':' :: value) (content : readValue fuel depth value = .ok (v, last))
      (others : readFields fuel depth false last = .ok (fields, after)) :
      FieldsRead fuel depth first s ((name, v) :: fields) after

theorem readItems_cases {fuel depth : Nat} {first : Bool} {items : List Json}
    (read : readItems (fuel + 1) depth first s = .ok (items, after)) :
    ItemsRead fuel depth first s items after := by
  rw [readItems] at read
  dsimp only at read
  split at read
  · cases read
  · rename_i c rest front
    split at read
    · rename_i same
      obtain rfl := eq_of_beq same
      cases read
      exact .done front
    rename_i other
    have other : c ≠ ']' := by simpa using other
    split at read
    · rename_i same
      subst same
      obtain ⟨v, mid, value, read⟩ := Reading.andThen_eq_ok read
      obtain ⟨items, last, others, same⟩ := Reading.andThen_eq_ok read
      cases same
      exact .item (.first front) other value others
    split at read
    · rename_i notFirst same
      obtain rfl := eq_of_beq same
      obtain rfl : first = false := by simpa using notFirst
      split at read
      · cases read
      · rename_i d more behind
        split at read
        · cases read
        · rename_i noEnd
          obtain ⟨v, mid, value, read⟩ := Reading.andThen_eq_ok read
          obtain ⟨items, last, others, same⟩ := Reading.andThen_eq_ok read
          cases same
          exact .item (.comma front behind) (by simpa using noEnd) value others
    · cases read

theorem readFields_cases {fuel depth : Nat} {first : Bool} {fields : List (String × Json)}
    (read : readFields (fuel + 1) depth first s = .ok (fields, after)) :
    FieldsRead fuel depth first s fields after := by
  -- in both places the name has been read, and a colon behind it
  have field {t mid value : List Char} {name : String} (begins : Begins first s ('"' :: t))
      (key : readString t = .ok (name, mid)) (colon : skipSpace mid = ':' :: value)
      (read : ((readValue fuel depth value).andThen fun v last =>
        (readFields fuel depth false last).andThen fun fields after =>
          .ok ((name, v) :: fields, after)) = .ok (fields, after)) :
      FieldsRead fuel depth first s fields after := by
    obtain ⟨v, last, content, read⟩ := Reading.andThen_eq_ok read
    obtain ⟨fields, ends, others, same⟩ := Reading.andThen_eq_ok read
    cases same
    exact .field begins key colon content others
  rw [readFields] at read
  dsimp only at read
  split at read
  · cases read
  · rename_i c rest front
    split at read
    · rename_i same
      obtain rfl := eq_of_beq same
      cases read
      exact .done front
    split at read
    · rename_i same
      subst same
      split at read
      · rename_i same
        obtain rfl := eq_of_beq same
        obtain ⟨name, mid, key, read⟩ := Reading.andThen_eq_ok read
        split at read
        · cases read
        · rename_i d value colon
          split at read
          · rename_i same
            obtain rfl := eq_of_beq same
            exact field (.first front) key colon read
          · cases read
      · cases read
    split at read
    · rename_i notFirst same
      obtain rfl := eq_of_beq same
      obtain rfl : first = false := by simpa using notFirst
      split at read
      · cases read
      · rename_i d more behind
        split at read
        · rename_i same
          obtain rfl := eq_of_beq same
          obtain ⟨name, mid, key, read⟩ := Reading.andThen_eq_ok read
          split at read
          · cases read
          · rename_i d value colon
            split at read
            · rename_i same
              obtain rfl := eq_of_beq same
              exact field (.comma front behind) key colon read
            · cases read
        · split at read <;> cases read
    · cases read

end CompileDesk.Json
