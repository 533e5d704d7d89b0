import CompileDesk.Diagram.Edge
import Mathlib.Data.List.TakeWhile

/-!
# Tokens from left to right

The tokens of a text are found by three rules: an empty text has none, a token at the front comes first, and
a character that begins no token goes into the gap of the next one. Where a text goes on with something
that no token in front of it takes in, its own tokens stay as they are, provided that each of its quotes
lies in a name. A quote outside of all names could be closed by a later one.
-/

namespace CompileDesk.Diagram

/-! ## Names in quotes -/

/-- A part of a name in quotes: a character that stands for itself, or a backslash and the character that it
pairs with. -/
inductive Piece where
  | plain (c : Char) (proper : c ≠ '"' ∧ c ≠ '\\')
  | escaped (c : Char)
  deriving DecidableEq

def Piece.written : Piece → List Char
  | plain c _ => [c]
  | escaped c => ['\\', c]

/-- What stands between the quotes of a name. -/
def contentOf (pieces : List Piece) : List Char := pieces.flatMap Piece.written

def quoted (pieces : List Piece) : List Char := '"' :: (contentOf pieces ++ ['"'])

theorem quotedContent?_plain {c : Char} (proper : c ≠ '"' ∧ c ≠ '\\') (rest : List Char) :
    quotedContent? (c :: rest) =
      (quotedContent? rest).map fun (content, after) => (c :: content, after) := by
  rw [quotedContent?]
  · exact proper.1
  · exact fun same _ => proper.2 same
  · exact fun _ _ same _ => proper.2 same

/-- The content ends at the closing quote, unless a backslash in it pairs with a line feed. -/
theorem quotedContent?_contentOf (pieces : List Piece) (rest : List Char) :
    quotedContent? (contentOf pieces ++ '"' :: rest) =
      if .escaped '\n' ∈ pieces then none else some (contentOf pieces, rest) := by
  induction pieces with
  | nil => rfl
  | cons piece pieces ih =>
    cases piece with
    | plain c proper =>
      have step := quotedContent?_plain proper (contentOf pieces ++ '"' :: rest)
      rw [ih] at step
      change quotedContent? (c :: (contentOf pieces ++ '"' :: rest)) = _
      rw [step]
      by_cases there : .escaped '\n' ∈ pieces <;> simp [there, contentOf, Piece.written]
    | escaped c =>
      change quotedContent? ('\\' :: c :: (contentOf pieces ++ '"' :: rest)) = _
      rw [quotedContent?, ih]
      by_cases lineFeed : c = '\n'
      · simp [lineFeed]
      · by_cases there : .escaped '\n' ∈ pieces <;>
          simp [lineFeed, Ne.symm lineFeed, there, contentOf, Piece.written]

theorem exists_pieces {s content after : List Char} (h : quotedContent? s = some (content, after)) :
    ∃ pieces, .escaped '\n' ∉ pieces ∧ content = contentOf pieces ∧
      s = contentOf pieces ++ '"' :: after := by
  fun_induction quotedContent? s generalizing content after with
  | case1 => cases h
  | case2 rest =>
    cases h
    exact ⟨[], nofun, rfl, rfl⟩
  | case3 => cases h
  | case4 => cases h
  | case5 c rest other ih =>
    obtain ⟨⟨content', after'⟩, found, same⟩ := Option.map_eq_some_iff.mp h
    cases same
    obtain ⟨pieces, none, rfl, rfl⟩ := ih found
    have other : c ≠ '\n' := by simpa using other
    exact ⟨.escaped c :: pieces, by simp [none, other.symm], rfl, rfl⟩
  | case6 c rest noQuote noEnd noPair ih =>
    obtain ⟨⟨content', after'⟩, found, same⟩ := Option.map_eq_some_iff.mp h
    cases same
    obtain ⟨pieces, none, rfl, rfl⟩ := ih found
    have proper : c ≠ '"' ∧ c ≠ '\\' := by
      refine ⟨noQuote, fun backslash => ?_⟩
      obtain ⟨d, ds, begins⟩ : ∃ d ds, contentOf pieces ++ '"' :: after = d :: ds :=
        List.exists_cons_of_ne_nil (by simp)
      exact noPair d ds backslash begins
    exact ⟨.plain c proper :: pieces, by simp [none], rfl, rfl⟩

/-! ## One token -/

/-- A token as it stands in a text. -/
def Token.written : Token → List Char
  | name written => written
  | operator second => ['-', second]

/-- The second character of an operator. -/
def IsMark (c : Char) : Prop := c = '-' ∨ c = '>'

instance (c : Char) : Decidable (IsMark c) := inferInstanceAs (Decidable (c = '-' ∨ c = '>'))

/-- The text does not go on with a character of a name. -/
def EndsName (s : List Char) : Prop := ∀ c ∈ s.head?, isNameChar c = false

/-- A text begins with a token and goes on after it. Of a bare name nothing is left over, and in a name in
quotes no backslash pairs with a line feed. -/
inductive Token.Starts : List Char → Token → List Char → Prop
  | quoted {pieces : List Piece} (oneLine : .escaped '\n' ∉ pieces) (after : List Char) :
    Starts (Diagram.quoted pieces ++ after) (.name (Diagram.quoted pieces)) after
  | bare {text after : List Char} (nonempty : text ≠ []) (all : ∀ c ∈ text, isNameChar c = true)
    (ends : EndsName after) : Starts (text ++ after) (.name text) after
  | operator {second : Char} (mark : IsMark second) (after : List Char) :
    Starts ('-' :: second :: after) (.operator second) after

theorem ne_quote_of_isNameChar {c : Char} (h : isNameChar c = true) : c ≠ '"' := by
  rintro rfl
  exact absurd h (by decide)

theorem Token.atFront?_quote (rest : List Char) : Token.atFront? ('"' :: rest) =
    (quotedContent? rest).map fun (content, after) => (.name ('"' :: (content ++ ['"'])), after) := rfl

theorem Token.atFront?_name {c : Char} (inName : isNameChar c = true) (rest : List Char) :
    Token.atFront? (c :: rest) =
      some (.name (c :: rest.takeWhile isNameChar), rest.dropWhile isNameChar) := by
  simp [Token.atFront?, ne_quote_of_isNameChar inName, inName]

theorem Token.atFront?_dash (second : Char) (after : List Char) :
    Token.atFront? ('-' :: second :: after) =
      if IsMark second then some (.operator second, after) else none := by
  by_cases dash : second = '-'
  · subst dash
    rfl
  · by_cases arrow : second = '>'
    · subst arrow
      rfl
    · simp [Token.atFront?, IsMark, dash, arrow, isNameChar, Text.isDigit]

theorem Token.atFront?_other {c : Char} (noQuote : c ≠ '"') (noName : isNameChar c = false)
    (noDash : c ≠ '-') (rest : List Char) : Token.atFront? (c :: rest) = none := by
  simp [Token.atFront?, noQuote, noName, noDash]

/-- A bare name is taken whole. -/
theorem Token.Starts.of_isNameChar {c : Char} (inName : isNameChar c = true) (rest : List Char) :
    Starts (c :: rest) (.name (c :: rest.takeWhile isNameChar)) (rest.dropWhile isNameChar) := by
  have all : ∀ d ∈ c :: rest.takeWhile isNameChar, isNameChar d = true := by
    intro d there
    rcases List.mem_cons.mp there with rfl | later
    · exact inName
    · exact List.mem_takeWhile_imp later
  have ends : EndsName (rest.dropWhile isNameChar) := by
    intro d first
    have stops := List.head?_dropWhile_not isNameChar rest
    rw [Option.mem_def.mp first] at stops
    simpa using stops
  have starts := Starts.bare (List.cons_ne_nil _ _) all ends
  rwa [List.cons_append, List.takeWhile_append_dropWhile] at starts

theorem Token.Starts.of_atFront? {s after : List Char} {t : Token}
    (h : Token.atFront? s = some (t, after)) : Starts s t after := by
  cases s with
  | nil => cases h
  | cons c rest =>
    by_cases quote : c = '"'
    · subst quote
      obtain ⟨⟨content, after'⟩, found, same⟩ := Option.map_eq_some_iff.mp h
      cases same
      obtain ⟨pieces, oneLine, rfl, rfl⟩ := exists_pieces found
      have whole : '"' :: (contentOf pieces ++ '"' :: after) = Diagram.quoted pieces ++ after := by
        simp [Diagram.quoted]
      rw [whole]
      exact .quoted oneLine after
    · cases inName : isNameChar c with
      | true =>
        rw [Token.atFront?_name inName] at h
        cases h
        exact .of_isNameChar inName rest
      | false =>
        by_cases dash : c = '-'
        · subst dash
          cases rest with
          | nil => cases h
          | cons second more =>
            rw [Token.atFront?_dash] at h
            split at h
            · rename_i mark
              cases h
              exact .operator mark _
            · cases h
        · rw [Token.atFront?_other quote inName dash] at h
          cases h

theorem Token.Starts.atFront? {s after : List Char} {t : Token} (h : Starts s t after) :
    Token.atFront? s = some (t, after) := by
  cases h with
  | @quoted pieces oneLine =>
    have found := quotedContent?_contentOf pieces after
    rw [if_neg oneLine] at found
    have whole : Diagram.quoted pieces ++ after = '"' :: (contentOf pieces ++ '"' :: after) := by
      simp [Diagram.quoted]
    rw [whole, Token.atFront?_quote, found]
    rfl
  | @bare text _ nonempty all ends =>
    obtain ⟨c, rest, rfl⟩ := List.exists_cons_of_ne_nil nonempty
    have others : ∀ d ∈ rest, isNameChar d = true := fun d there => all d (List.mem_cons_of_mem _ there)
    have stops : after.takeWhile isNameChar = [] ∧ after.dropWhile isNameChar = after := by
      cases after with
      | nil => exact ⟨rfl, rfl⟩
      | cons d more =>
        have notName := ends d rfl
        simp [notName]
    rw [List.cons_append, Token.atFront?_name (all c List.mem_cons_self),
      List.takeWhile_append_of_pos others, List.dropWhile_append_of_pos others, stops.1, stops.2,
      List.append_nil]
  | operator mark =>
    obtain rfl | rfl := mark <;> rfl

theorem Token.Starts.eq_append {s after : List Char} {t : Token} (h : Starts s t after) :
    s = t.written ++ after ∧ t.written ≠ [] := by
  cases h with
  | quoted => exact ⟨rfl, nofun⟩
  | bare nonempty => exact ⟨rfl, nonempty⟩
  | operator => exact ⟨rfl, nofun⟩

theorem Token.length_of_atFront? {s after : List Char} {t : Token}
    (h : Token.atFront? s = some (t, after)) : after.length < s.length := by
  obtain ⟨whole, nonempty⟩ := (Starts.of_atFront? h).eq_append
  have some := List.length_pos_iff.mpr nonempty
  rw [whole, List.length_append]
  omega

/-! ## All tokens -/

/-- A token as it stands in a text, with the gap in front of it. -/
def Lexeme.written (l : Lexeme) : List Char := l.gap ++ l.token.written

/-- Lexemes with more text in front of them, which goes into the first gap. -/
def behind (text : List Char) : List Lexeme → List Lexeme
  | [] => []
  | l :: rest => ⟨text ++ l.gap, l.token⟩ :: rest

@[simp] theorem behind_nil (ls : List Lexeme) : behind [] ls = ls := by cases ls <;> rfl

theorem behind_behind (first second : List Char) (ls : List Lexeme) :
    behind first (behind second ls) = behind (first ++ second) ls := by
  cases ls <;> simp [behind]

theorem scanGo_behind (fuel : Nat) (gap s : List Char) :
    scanGo fuel gap s = behind gap.reverse (scanGo fuel [] s) := by
  induction fuel generalizing gap s with
  | zero => rfl
  | succ fuel ih =>
    cases s with
    | nil => rfl
    | cons c rest =>
      unfold scanGo
      cases Token.atFront? (c :: rest) with
      | some found => simp [behind]
      | none =>
        dsimp only
        rw [ih (c :: gap), ih [c], behind_behind]
        simp

/-- Fuel of the text's length is enough. -/
theorem scanGo_of_le {fuel more : Nat} {gap s : List Char} (h : s.length ≤ fuel) (h' : s.length ≤ more) :
    scanGo fuel gap s = scanGo more gap s := by
  induction fuel generalizing more gap s with
  | zero =>
    obtain rfl := List.length_eq_zero_iff.mp (Nat.le_zero.mp h)
    cases more <;> rfl
  | succ fuel ih =>
    cases s with
    | nil => cases more <;> rfl
    | cons c rest =>
      cases more with
      | zero => cases h'
      | succ more =>
        rw [List.length_cons] at h h'
        unfold scanGo
        cases found : Token.atFront? (c :: rest) with
        | some pair =>
          obtain ⟨t, after⟩ := pair
          have shorter := Token.length_of_atFront? found
          rw [List.length_cons] at shorter
          have enough : after.length ≤ fuel := by omega
          have enough' : after.length ≤ more := by omega
          dsimp only
          rw [ih enough enough']
        | none => exact ih (by omega) (by omega)

theorem scan_nil : scan [] = [] := rfl

theorem scan_of_token {s after : List Char} {t : Token} (h : Token.atFront? s = some (t, after)) :
    scan s = ⟨[], t⟩ :: scan after := by
  cases s with
  | nil => cases h
  | cons c rest =>
    have shorter := Token.length_of_atFront? h
    rw [scan, List.length_cons, scanGo, h]
    rw [List.length_cons] at shorter
    dsimp only
    rw [scan, scanGo_of_le (Nat.le_of_lt_succ shorter) (Nat.le_refl _)]
    rfl

theorem scan_of_gap {c : Char} {rest : List Char} (h : Token.atFront? (c :: rest) = none) :
    scan (c :: rest) = behind [c] (scan rest) := by
  rw [scan, List.length_cons, scanGo, h]
  exact scanGo_behind rest.length [c] rest

/-! ## Texts whose quotes lie in names -/

/-- Every quote of the text lies in a name that is found in it: none is in a gap, and none comes after the
last token. -/
def QuotesInNames (s : List Char) : Prop :=
  ∃ tail, s = (scan s).flatMap Lexeme.written ++ tail ∧ (∀ l ∈ scan s, '"' ∉ l.gap) ∧ '"' ∉ tail

theorem quotesInNames_nil : QuotesInNames [] := ⟨[], rfl, nofun, nofun⟩

theorem QuotesInNames.of_token {s after : List Char} {t : Token} (h : QuotesInNames s)
    (first : Token.atFront? s = some (t, after)) : QuotesInNames after := by
  obtain ⟨tail, whole, gaps, outside⟩ := h
  rw [scan_of_token first] at whole gaps
  refine ⟨tail, ?_, fun l there => gaps l (List.mem_cons_of_mem _ there), outside⟩
  rw [(Token.Starts.of_atFront? first).eq_append.1, List.flatMap_cons, Lexeme.written, List.nil_append,
    List.append_assoc] at whole
  exact List.append_cancel_left whole

theorem QuotesInNames.of_gap {c : Char} {rest : List Char} (h : QuotesInNames (c :: rest))
    (first : Token.atFront? (c :: rest) = none) : c ≠ '"' ∧ QuotesInNames rest := by
  obtain ⟨tail, whole, gaps, outside⟩ := h
  rw [scan_of_gap first] at whole gaps
  cases found : scan rest with
  | nil =>
    rw [found] at whole
    obtain rfl : c :: rest = tail := whole
    rw [List.mem_cons, not_or] at outside
    exact ⟨Ne.symm outside.1, rest, by simp [found], by simp [found], outside.2⟩
  | cons l ls =>
    rw [found] at whole gaps
    have inFirst : '"' ∉ c :: l.gap := gaps ⟨[c] ++ l.gap, l.token⟩ List.mem_cons_self
    rw [List.mem_cons, not_or] at inFirst
    refine ⟨Ne.symm inFirst.1, tail, ?_, ?_, outside⟩
    · rw [found]
      simpa [behind, Lexeme.written] using whole
    · rw [found]
      intro l' there
      rcases List.mem_cons.mp there with rfl | later
      · exact inFirst.2
      · exact gaps l' (List.mem_cons_of_mem _ later)

/-- A text that is read token by token and character by character, with no quote between the tokens. -/
inductive ReadsThrough : List Char → Prop
  | nil : ReadsThrough []
  | token {s after : List Char} {t : Token} (first : Token.Starts s t after) (more : ReadsThrough after) :
    ReadsThrough s
  | gap {c : Char} {rest : List Char} (first : Token.atFront? (c :: rest) = none) (noQuote : c ≠ '"')
    (more : ReadsThrough rest) : ReadsThrough (c :: rest)

theorem QuotesInNames.readsThrough {s : List Char} (h : QuotesInNames s) : ReadsThrough s := by
  induction bound : s.length using Nat.strongRecOn generalizing s with
  | ind n ih =>
    cases s with
    | nil => exact .nil
    | cons c rest =>
      cases first : Token.atFront? (c :: rest) with
      | some pair =>
        obtain ⟨t, after⟩ := pair
        have shorter := Token.length_of_atFront? first
        rw [bound] at shorter
        exact .token (.of_atFront? first) (ih after.length shorter (h.of_token first) rfl)
      | none =>
        obtain ⟨noQuote, inner⟩ := h.of_gap first
        rw [List.length_cons] at bound
        exact .gap first noQuote (ih rest.length (by omega) inner rfl)

/-! ## A text that goes on -/

/-- No token takes in the front of the text that comes behind it. -/
structure StandsApart (x : List Char) : Prop where
  endsName : EndsName x
  noMark : ∀ c ∈ x.head?, ¬ IsMark c

theorem Token.Starts.append {s after x : List Char} {t : Token} (h : Starts s t after)
    (apart : StandsApart x) : Starts (s ++ x) t (after ++ x) := by
  cases h with
  | quoted oneLine =>
    rw [List.append_assoc]
    exact .quoted oneLine _
  | bare nonempty all ends =>
    rw [List.append_assoc]
    refine .bare nonempty all ?_
    cases after with
    | nil => exact apart.endsName
    | cons => exact ends
  | operator mark => exact .operator mark _

theorem Token.atFront?_append_eq_none {c : Char} {rest x : List Char}
    (h : Token.atFront? (c :: rest) = none) (noQuote : c ≠ '"') (apart : StandsApart x) :
    Token.atFront? (c :: rest ++ x) = none := by
  have nothing (t : Token) (after : List Char) : ¬ Starts (c :: rest) t after := by
    intro starts
    rw [starts.atFront?] at h
    cases h
  rw [Option.eq_none_iff_forall_ne_some]
  rintro ⟨t, after⟩ found
  have starts := Starts.of_atFront? found
  generalize whole : c :: rest ++ x = s at starts
  cases starts with
  | quoted oneLine => exact noQuote (List.cons.inj whole).1
  | @bare text _ nonempty all ends =>
    obtain ⟨d, more, rfl⟩ := List.exists_cons_of_ne_nil nonempty
    obtain rfl : c = d := (List.cons.inj whole).1
    exact nothing _ _ (.of_isNameChar (all c List.mem_cons_self) rest)
  | @operator second mark =>
    obtain ⟨rfl, goesOn⟩ := List.cons.inj whole
    cases rest with
    | nil =>
      obtain rfl : x = second :: after := goesOn
      exact apart.noMark second rfl mark
    | cons d more =>
      obtain ⟨rfl, -⟩ := List.cons.inj goesOn
      exact nothing _ _ (.operator mark more)

/-- The tokens of a text without a quote between them are also found when the text goes on. What is left of
it after its last token goes into the gap of the next one. -/
theorem ReadsThrough.scan_append {s : List Char} (h : ReadsThrough s) :
    ∃ gap, ∀ x, StandsApart x → scan (s ++ x) = scan s ++ behind gap (scan x) := by
  induction h with
  | nil => exact ⟨[], fun x _ => by simp [scan_nil]⟩
  | token first more ih =>
    obtain ⟨gap, goesOn⟩ := ih
    refine ⟨gap, fun x apart => ?_⟩
    rw [scan_of_token (first.append apart).atFront?, scan_of_token first.atFront?, goesOn x apart,
      List.cons_append]
  | @gap c rest first noQuote more ih =>
    obtain ⟨gap, goesOn⟩ := ih
    have still {x : List Char} (apart : StandsApart x) : scan (c :: rest ++ x) =
        behind [c] (scan (rest ++ x)) := scan_of_gap (Token.atFront?_append_eq_none first noQuote apart)
    rw [scan_of_gap first]
    cases found : scan rest with
    | nil =>
      refine ⟨c :: gap, fun x apart => ?_⟩
      rw [still apart, goesOn x apart, found, List.nil_append, behind_behind]
      rfl
    | cons l ls =>
      refine ⟨gap, fun x apart => ?_⟩
      rw [still apart, goesOn x apart, found]
      rfl

end CompileDesk.Diagram
