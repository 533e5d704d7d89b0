import CompileDesk.Proofs.Diagram.Chains

/-!
# Names in quotes as they are shown

An edge shows a name in quotes without the quotes at its ends, however many there are. The content of a name
begins with no quote, but it may end with one that a backslash precedes, and then that quote goes
too. So a name is shown as its content exactly if its last part is no escaped quote. Even so, names with
different contents are shown differently: a content that lost its quote ends with a backslash that pairs
with nothing, which no content does by itself.
-/

namespace CompileDesk.Diagram

/-- The content of a name; an escaped quote at its end loses the quote. -/
def shownName (pieces : List Piece) : List Char :=
  if pieces.getLast? = some (.escaped '"') then (contentOf pieces).dropLast else contentOf pieces

theorem shownName_of_ends {pieces : List Piece} (ends : pieces.getLast? ≠ some (.escaped '"')) :
    shownName pieces = contentOf pieces := if_neg ends

theorem contentOf_append (before pieces : List Piece) :
    contentOf (before ++ pieces) = contentOf before ++ contentOf pieces := List.flatMap_append

theorem contentOf_escaped (before : List Piece) :
    contentOf (before ++ [.escaped '"']) = contentOf before ++ ['\\', '"'] := contentOf_append before _

theorem shownName_escaped (before : List Piece) :
    shownName (before ++ [.escaped '"']) = contentOf before ++ ['\\'] := by
  rw [shownName, if_pos List.getLast?_concat, contentOf_escaped]
  simp

/-- Both quotes behind the last backslash are taken away. -/
theorem unquoted_quoted_escaped (before : List Piece) :
    unquoted (quoted (before ++ [.escaped '"'])) = contentOf before ++ ['\\'] := by
  have first := head?_contentOf (before ++ [.escaped '"'])
  rw [contentOf_escaped] at first
  have front : (quoted (before ++ [.escaped '"'])).dropWhile (· == '"') =
      contentOf before ++ ['\\', '"', '"'] := by
    have whole : quoted (before ++ [.escaped '"']) = '"' :: (contentOf before ++ ['\\', '"', '"']) := by
      simp [quoted, contentOf_escaped]
    rw [whole]
    apply dropWhile_quote (s := contentOf before ++ ['\\', '"', '"'])
    intro c there
    apply first c
    cases content : contentOf before <;> simpa [content] using there
  rw [unquoted, front, List.reverse_append]
  change ('\\' :: (contentOf before).reverse).reverse = _
  rw [List.reverse_cons, List.reverse_reverse]

/-- An edge shows a name in quotes as its content, less a quote at the end. -/
theorem unquoted_quoted_eq_shownName (pieces : List Piece) :
    unquoted (quoted pieces) = shownName pieces := by
  by_cases ends : pieces.getLast? = some (.escaped '"')
  · obtain ⟨before, rfl⟩ := List.getLast?_eq_some_iff.mp ends
    rw [unquoted_quoted_escaped, shownName_escaped]
  · rw [unquoted_quoted ends, shownName_of_ends ends]

/-! ## Different names are shown differently -/

/-- With a quote behind it, a content would otherwise go on past its closing quote. -/
theorem contentOf_ne_append_backslash {pieces : List Piece} (oneLine : .escaped '\n' ∉ pieces)
    (before : List Piece) : contentOf pieces ≠ contentOf before ++ ['\\'] := by
  intro same
  -- Content, closing quote and one more quote are read in two ways: to the first quote, as the content asks, and
  -- past it, since the last backslash pairs with it.
  have closed := quotedContent?_contentOf pieces ['"']
  have goesOn := quotedContent?_contentOf (before ++ [.escaped '"']) []
  have text : contentOf pieces ++ ['"', '"'] = contentOf (before ++ [.escaped '"']) ++ ['"'] := by
    simp [same, contentOf_escaped]
  rw [if_neg oneLine, text, goesOn] at closed
  split at closed
  · cases closed
  · cases (Prod.mk.inj (Option.some.inj closed)).2

theorem contentOf_eq_of_shownName_eq {pieces pieces' : List Piece} (oneLine : .escaped '\n' ∉ pieces)
    (oneLine' : .escaped '\n' ∉ pieces') (same : shownName pieces = shownName pieces') :
    contentOf pieces = contentOf pieces' := by
  by_cases ends : pieces.getLast? = some (.escaped '"')
  · obtain ⟨before, rfl⟩ := List.getLast?_eq_some_iff.mp ends
    rw [shownName_escaped] at same
    by_cases ends' : pieces'.getLast? = some (.escaped '"')
    · obtain ⟨before', rfl⟩ := List.getLast?_eq_some_iff.mp ends'
      rw [shownName_escaped] at same
      rw [contentOf_escaped, contentOf_escaped, List.append_cancel_right same]
    · rw [shownName_of_ends ends'] at same
      exact absurd same.symm (contentOf_ne_append_backslash oneLine' before)
  · rw [shownName_of_ends ends] at same
    by_cases ends' : pieces'.getLast? = some (.escaped '"')
    · obtain ⟨before', rfl⟩ := List.getLast?_eq_some_iff.mp ends'
      rw [shownName_escaped] at same
      exact absurd same (contentOf_ne_append_backslash oneLine before')
    · rwa [shownName_of_ends ends'] at same

theorem shownName_eq_contentOf_iff (pieces : List Piece) :
    shownName pieces = contentOf pieces ↔ pieces.getLast? ≠ some (.escaped '"') := by
  constructor
  · intro same ends
    obtain ⟨before, rfl⟩ := List.getLast?_eq_some_iff.mp ends
    rw [shownName_escaped, contentOf_escaped] at same
    simp at same
  · exact shownName_of_ends

/-! ## An edge between two names in quotes -/

/-- The text of an edge between two names in quotes. -/
def quotedEdge (source target : List Piece) : String :=
  String.ofList (quoted source) ++ " -> " ++ String.ofList (quoted target)

theorem edges_quotedEdge {source target : List Piece} (oneLine : .escaped '\n' ∉ source)
    (oneLine' : .escaped '\n' ∉ target) : edges (quotedEdge source target) =
      [⟨String.ofList (shownName source), String.ofList (shownName target)⟩] := by
  have text : (quotedEdge source target).toList =
      quoted source ++ ([' '] ++ '-' :: '>' :: ([' '] ++ (quoted target ++ []))) := by
    simp [quotedEdge]
  have blank : ∀ c ∈ [' '], Text.isBlank c = true := List.forall_mem_singleton.mpr rfl
  have tokens : scan (quotedEdge source target).toList =
      [⟨[], .name (quoted source)⟩, ⟨[' '], .operator '>'⟩, ⟨[' '], .name (quoted target)⟩] := by
    rw [text, scan_of_token (Token.Starts.quoted oneLine _).atFront?, scan_blanks blank,
      scan_of_token (Token.Starts.operator (.inr rfl) _).atFront?, scan_blanks blank,
      scan_of_token (Token.Starts.quoted oneLine' _).atFront?]
    rfl
  rw [edges, tokens, ← unquoted_quoted_eq_shownName, ← unquoted_quoted_eq_shownName]
  rfl

/-- Between two names in quotes there is one edge. It shows both by their contents exactly if neither ends with
an escaped quote, which else loses its quote. In any case it tells the names apart from all others. -/
theorem edges_quotedEdge_iff {source target : List Piece} (oneLine : .escaped '\n' ∉ source)
    (oneLine' : .escaped '\n' ∉ target) :
    edges (quotedEdge source target) =
      [⟨String.ofList (shownName source), String.ofList (shownName target)⟩] ∧
    (edges (quotedEdge source target) =
        [⟨String.ofList (contentOf source), String.ofList (contentOf target)⟩] ↔
      source.getLast? ≠ some (.escaped '"') ∧ target.getLast? ≠ some (.escaped '"')) ∧
    ∀ name ∈ [source, target], ∀ other, .escaped '\n' ∉ other →
      String.ofList (shownName other) = String.ofList (shownName name) →
        contentOf other = contentOf name := by
  have shown := edges_quotedEdge oneLine oneLine'
  refine ⟨shown, ?_, ?_⟩
  · rw [shown, ← shownName_eq_contentOf_iff, ← shownName_eq_contentOf_iff]
    simp [String.ofList_inj]
  · intro name there other oneLineOther same
    have oneLineName : .escaped '\n' ∉ name := by
      simp only [List.mem_cons, List.not_mem_nil, or_false] at there
      rcases there with rfl | rfl
      · exact oneLine
      · exact oneLine'
    exact contentOf_eq_of_shownName_eq oneLineOther oneLineName (String.ofList_injective same)

/-- A name that begins with an escaped quote, has one within, and ends with an escaped backslash. -/
def framedName : List Piece :=
  [.escaped '"', .plain 'n' (by decide), .escaped '"', .plain ',' (by decide), .escaped '\\']

/-- Between the framed name and the empty one both are shown by their contents. -/
theorem edges_quotedEdge_framedName :
    .escaped '\n' ∉ framedName ∧ quotedEdge framedName [] = "\"\\\"n\\\",\\\\\" -> \"\"" ∧
      edges (quotedEdge framedName []) = [⟨"\\\"n\\\",\\\\", ""⟩] := by
  have oneLine : .escaped '\n' ∉ framedName := by decide
  have ends : framedName.getLast? ≠ some (.escaped '"') := by decide
  refine ⟨oneLine, by decide +kernel, ?_⟩
  exact (edges_quotedEdge_iff oneLine List.not_mem_nil).2.1.mpr ⟨ends, nofun⟩

/-- A name that ends with an escaped quote. -/
def escapedEnd : List Piece := [.plain 'm' (by decide), .escaped '"']

/-- The name is shown without its last character. -/
theorem escapedEnd_loses_quote :
    .escaped '\n' ∉ escapedEnd ∧ quotedEdge escapedEnd [] = "\"m\\\"\" -> \"\"" ∧
      edges (quotedEdge escapedEnd []) = [⟨"m\\", ""⟩] ∧
      edges (quotedEdge escapedEnd []) ≠ [⟨String.ofList (contentOf escapedEnd), ""⟩] := by
  have shown : edges (quotedEdge escapedEnd []) = [⟨"m\\", ""⟩] := by decide +kernel
  refine ⟨by decide, by decide +kernel, shown, ?_⟩
  rw [shown]
  decide +kernel

end CompileDesk.Diagram
