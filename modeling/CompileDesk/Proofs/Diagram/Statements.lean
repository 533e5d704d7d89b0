import CompileDesk.Proofs.Diagram.Tokens

/-!
# Statements of a diagram

An edge reaches over no more than blanks. A character that is neither blank nor part of a token keeps the
tokens in front of it apart from those behind it, so the edges of two statements are those of the one
and then those of the other.
-/

namespace CompileDesk.Diagram

/-- The edge that begins with a token, given the tokens behind it. -/
def firstEdge (a : Lexeme) : List Lexeme → List Edge
  | b :: c :: _ => (edgeOf? a b c).toList
  | _ => []

theorem edgesOf_cons (a : Lexeme) (ls : List Lexeme) :
    edgesOf (a :: ls) = firstEdge a ls ++ edgesOf ls := by
  cases ls with
  | nil => rfl
  | cons b ls => cases ls <;> rfl

/-- What stands in front of the first token makes no difference. -/
theorem edgesOf_behind (gap : List Char) (ls : List Lexeme) : edgesOf (behind gap ls) = edgesOf ls := by
  cases ls with
  | nil => rfl
  | cons a ls =>
    have same : firstEdge ⟨gap ++ a.gap, a.token⟩ ls = firstEdge a ls := by
      cases ls with
      | nil => rfl
      | cons b ls => cases ls <;> rfl
    rw [behind, edgesOf_cons, edgesOf_cons, same]

theorem edgeOf?_eq_none_of_second {a b c : Lexeme} (h : b.gap.all Text.isBlank = false) :
    edgeOf? a b c = none := by
  unfold edgeOf?
  split
  · simp [h]
  · rfl

theorem edgeOf?_eq_none_of_third {a b c : Lexeme} (h : c.gap.all Text.isBlank = false) :
    edgeOf? a b c = none := by
  unfold edgeOf?
  split
  · simp [h]
  · rfl

section Apart

variable {gap : List Char} (apart : gap.all Text.isBlank = false)
include apart

/-- No edge begins in front of a gap with more than blanks and ends behind it. -/
theorem firstEdge_append_behind (a : Lexeme) (ls more : List Lexeme) :
    firstEdge a (ls ++ behind gap more) = firstEdge a ls := by
  cases more with
  | nil => simp [behind]
  | cons l more =>
    have wide : (⟨gap ++ l.gap, l.token⟩ : Lexeme).gap.all Text.isBlank = false := by simp [apart]
    cases ls with
    | nil =>
      cases more with
      | nil => rfl
      | cons c more =>
        change (edgeOf? a _ c).toList = []
        rw [edgeOf?_eq_none_of_second wide, Option.toList_none]
    | cons b ls =>
      cases ls with
      | nil =>
        change (edgeOf? a b _).toList = []
        rw [edgeOf?_eq_none_of_third wide, Option.toList_none]
      | cons c ls => rfl

theorem edgesOf_append_behind (ls more : List Lexeme) :
    edgesOf (ls ++ behind gap more) = edgesOf ls ++ edgesOf more := by
  induction ls with
  | nil => exact edgesOf_behind gap more
  | cons a ls ih =>
    rw [List.cons_append, edgesOf_cons, edgesOf_cons, firstEdge_append_behind apart, ih, List.append_assoc]

end Apart

/-- A character that begins no token in front of a text, and is not blank, keeps apart what stands on its two
sides. -/
theorem edges_append_cons {s rest : List Char} {c : Char} (closed : QuotesInNames s)
    (apart : StandsApart (c :: rest)) (noToken : Token.atFront? (c :: rest) = none)
    (notBlank : Text.isBlank c = false) :
    edgesOf (scan (s ++ c :: rest)) = edgesOf (scan s) ++ edgesOf (scan rest) := by
  obtain ⟨gap, goesOn⟩ := closed.readsThrough.scan_append
  have wide : (gap ++ [c]).all Text.isBlank = false := by simp [notBlank]
  rw [goesOn _ apart, scan_of_gap noToken, behind_behind, edgesOf_append_behind wide]

/-- A character that can stand between two statements. -/
structure IsSeparator (c : Char) : Prop where
  notBlank : Text.isBlank c = false
  noName : isNameChar c = false
  noQuote : c ≠ '"'
  noMark : ¬ IsMark c

/-- The edges of two statements with a separator between them are the edges of the first and then those of
the second, which may be any text at all; of the first, each quote has to lie in a name. -/
theorem edges_separated {s₁ : String} {c : Char} (closed : QuotesInNames s₁.toList)
    (separator : IsSeparator c) (s₂ : String) :
    edges (s₁ ++ String.singleton c ++ s₂) = edges s₁ ++ edges s₂ := by
  have apart : StandsApart (c :: s₂.toList) := by
    constructor
    · intro d first
      obtain rfl : c = d := Option.some.inj first
      exact separator.noName
    · intro d first
      obtain rfl : c = d := Option.some.inj first
      exact separator.noMark
  have noToken := Token.atFront?_other separator.noQuote separator.noName
    (fun dash => separator.noMark (.inl dash)) s₂.toList
  have whole : (s₁ ++ String.singleton c ++ s₂).toList = s₁.toList ++ c :: s₂.toList := by
    simp
  rw [edges, whole, edges_append_cons closed apart noToken separator.notBlank]
  rfl

/-- Two statements, the first with a semicolon and an arrow in its names, the second with a quote that is
never closed. -/
theorem edges_separated_unclosed :
    QuotesInNames "\"a;b\" -> \"c \\\"-> d\"".toList ∧ IsSeparator ';' ∧
      edges ("\"a;b\" -> \"c \\\"-> d\"" ++ String.singleton ';' ++ "x -- y, \"é -> z") =
        [⟨"a;b", "c \\\"-> d"⟩, ⟨"x", "y"⟩] := by
  have closed : QuotesInNames "\"a;b\" -> \"c \\\"-> d\"".toList :=
    ⟨[], by decide +kernel, by decide +kernel, nofun⟩
  have separator : IsSeparator ';' := ⟨by decide, by decide, by decide, by decide⟩
  refine ⟨closed, separator, ?_⟩
  rw [edges_separated closed separator]
  decide +kernel

end CompileDesk.Diagram
