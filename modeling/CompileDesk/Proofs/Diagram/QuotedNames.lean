import CompileDesk.Proofs.Diagram.Statements

/-!
# Names in quotes and the number of edges

A name in quotes that is found whole is one token, so the number of edges around it does not depend on what
stands between its quotes. It is found whole exactly if no backslash in it pairs with a line feed. Else its
opening quote falls into a gap, its content is read as if it stood outside of quotes, and some text
around it has more or fewer edges.
-/

namespace CompileDesk.Diagram

/-- The lexeme with nothing in place of its name. -/
def Lexeme.unnamed (l : Lexeme) : Lexeme :=
  match l.token with
  | .name _ => ⟨l.gap, .name []⟩
  | .operator _ => l

theorem length_edgeOf?_unnamed (a b c : Lexeme) :
    (edgeOf? a.unnamed b.unnamed c.unnamed).toList.length = (edgeOf? a b c).toList.length := by
  obtain ⟨gapA, a⟩ := a
  obtain ⟨gapB, b⟩ := b
  obtain ⟨gapC, c⟩ := c
  cases a with
  | operator => rfl
  | name =>
    cases b with
    | name => rfl
    | operator =>
      cases c with
      | operator => rfl
      | name =>
        change (edgeOf? ⟨gapA, .name []⟩ ⟨gapB, .operator _⟩ ⟨gapC, .name []⟩).toList.length = _
        by_cases blanks : (gapB.all Text.isBlank && gapC.all Text.isBlank) = true
        · simp only [edgeOf?, if_pos blanks, Option.toList_some, List.length_singleton]
        · simp only [edgeOf?, if_neg blanks]

/-- The number of edges depends on where the names are and not on what they are. -/
theorem length_edgesOf_unnamed (ls : List Lexeme) :
    (edgesOf (ls.map Lexeme.unnamed)).length = (edgesOf ls).length := by
  induction ls with
  | nil => rfl
  | cons a ls ih =>
    have first : (firstEdge a.unnamed (ls.map Lexeme.unnamed)).length = (firstEdge a ls).length := by
      match ls with
      | [] => rfl
      | [_] => rfl
      | b :: c :: _ => exact length_edgeOf?_unnamed a b c
    rw [List.map_cons, edgesOf_cons, edgesOf_cons, List.length_append, List.length_append, first, ih]

theorem length_edgesOf_congr {ls ls' : List Lexeme}
    (same : ls.map Lexeme.unnamed = ls'.map Lexeme.unnamed) :
    (edgesOf ls).length = (edgesOf ls').length := by
  rw [← length_edgesOf_unnamed ls, same, length_edgesOf_unnamed]

theorem standsApart_quoted (pieces : List Piece) (after : List Char) :
    StandsApart (quoted pieces ++ after) := by
  constructor
  · intro c first
    obtain rfl : '"' = c := Option.some.inj first
    decide
  · intro c first
    obtain rfl : '"' = c := Option.some.inj first
    decide

/-- Behind a text whose quotes lie in names, a name in quotes is found whole. -/
theorem scan_append_quoted {before : List Char} (closed : QuotesInNames before) :
    ∃ gap, ∀ pieces after, .escaped '\n' ∉ pieces → scan (before ++ (quoted pieces ++ after)) =
      scan before ++ ⟨gap, .name (quoted pieces)⟩ :: scan after := by
  obtain ⟨gap, goesOn⟩ := closed.readsThrough.scan_append
  refine ⟨gap, fun pieces after oneLine => ?_⟩
  have name := scan_of_token (Token.Starts.quoted oneLine after).atFront?
  rw [goesOn _ (standsApart_quoted pieces after), name]
  simp [behind]

/-- A name in which a backslash pairs with a line feed is no token, and what stands between its quotes is read
as text of its own. -/
theorem edges_append_quoted {pieces : List Piece} (continued : .escaped '\n' ∈ pieces) {before : String}
    (closed : QuotesInNames before.toList) :
    edges (before ++ String.ofList (quoted pieces)) =
      edges before ++ edges (String.ofList (contentOf pieces ++ ['"'])) := by
  have noToken : Token.atFront? (quoted pieces) = none := by
    rw [quoted, Token.atFront?_quote, quotedContent?_contentOf, if_pos continued]
    rfl
  have apart := standsApart_quoted pieces []
  rw [List.append_nil] at apart
  simp only [edges, String.toList_append, String.toList_ofList]
  exact edges_append_cons closed apart noToken (by decide)

/-- In place of a name in quotes there can be any other without a change in the number of edges, in front of
every text and behind every text whose quotes lie in names, exactly if no backslash in it pairs with a
line feed. -/
theorem count_edges_quoted_iff (pieces : List Piece) :
    (∀ before after : String, QuotesInNames before.toList →
      (edges (before ++ String.ofList (quoted pieces) ++ after)).length =
        (edges (before ++ "\"x\"" ++ after)).length) ↔
      .escaped '\n' ∉ pieces := by
  constructor
  · intro same continued
    -- an edge to the name is lost, so the number changes there or, if its content makes up for that, alone
    have empty : QuotesInNames "".toList := quotesInNames_nil
    have arrow : QuotesInNames "z -> ".toList := ⟨[' '], by decide +kernel, by decide +kernel, by decide⟩
    have alone := same "" "" empty
    have target := same "z -> " "" arrow
    rw [String.append_empty, edges_append_quoted continued empty] at alone
    rw [String.append_empty, edges_append_quoted continued arrow] at target
    have nothing : edges "z -> " = edges "" := by decide +kernel
    have none : (edges ("" ++ "\"x\"" ++ "")).length = 0 := by decide +kernel
    have one : (edges ("z -> " ++ "\"x\"" ++ "")).length = 1 := by decide +kernel
    rw [none] at alone
    rw [nothing, one, alone] at target
    cases target
  · intro oneLine before after closed
    obtain ⟨gap, found⟩ := scan_append_quoted closed
    have short : "\"x\"".toList = quoted [.plain 'x' (by decide)] := rfl
    simp only [edges, String.toList_append, String.toList_ofList, short, List.append_assoc]
    rw [found pieces after.toList oneLine, found [.plain 'x' (by decide)] after.toList (by simp)]
    exact length_edgesOf_congr (by simp [Lexeme.unnamed])

/-- A name with an escaped quote, an arrow, a semicolon and a line end in it. -/
def busyName : List Piece :=
  [.escaped '"', .plain ';' (by decide), .plain '-' (by decide), .plain '>' (by decide),
    .plain '\n' (by decide), .escaped '\\']

/-- The busy name can stand for any other in the middle of a chain. -/
theorem count_edges_busyName :
    QuotesInNames "\"a;b\" -> ".toList ∧
      String.ofList (quoted busyName) = "\"\\\";->\n\\\\\"" ∧
      (edges ("\"a;b\" -> " ++ String.ofList (quoted busyName) ++ " -- é\" -> c")).length =
        (edges ("\"a;b\" -> " ++ "\"x\"" ++ " -- é\" -> c")).length := by
  have closed : QuotesInNames "\"a;b\" -> ".toList := ⟨[' '], by decide +kernel, by decide +kernel, by decide⟩
  have oneLine : .escaped '\n' ∉ busyName := by decide
  exact ⟨closed, by decide +kernel, (count_edges_quoted_iff busyName).mpr oneLine _ _ closed⟩

/-- A name that goes on behind a line end. -/
def continuedName : List Piece := [.plain 'a' (by decide), .escaped '\n', .plain 'b' (by decide)]

/-- The edge from the continued name is lost. -/
theorem continuedName_loses_edge :
    QuotesInNames "".toList ∧ String.ofList (quoted continuedName) = "\"a\\\nb\"" ∧
      edges ("" ++ String.ofList (quoted continuedName) ++ " -> c") = [] ∧
      edges ("" ++ "\"x\"" ++ " -> c") = [⟨"x", "c"⟩] :=
  ⟨quotesInNames_nil, by decide +kernel, by decide +kernel, by decide +kernel⟩

end CompileDesk.Diagram
