import CompileDesk.Proofs.Diagram.Statements

/-!
# Chains

A chain is a name followed by hops, each an operator and the next name, with blanks around the operator or
without. The scanner gives the names and operators of a chain as they were written, whatever stands
between the quotes of a name, and every hop is one edge from the name in front of it to its own.
-/

namespace CompileDesk.Diagram

/-! ## Quotes at the ends of a name -/

theorem head?_contentOf (pieces : List Piece) : ∀ c ∈ (contentOf pieces).head?, c ≠ '"' := by
  intro c first
  cases pieces with
  | nil => cases first
  | cons piece pieces =>
    cases piece with
    | plain d proper =>
      obtain rfl : d = c := Option.some.inj first
      exact proper.1
    | escaped d =>
      obtain rfl : '\\' = c := Option.some.inj first
      decide

/-- Only an escaped quote at its end leaves a quote at the end of the content. -/
theorem getLast?_contentOf {pieces : List Piece} (ends : pieces.getLast? ≠ some (.escaped '"')) :
    ∀ c ∈ (contentOf pieces).getLast?, c ≠ '"' := by
  intro c last
  rcases List.eq_nil_or_concat pieces with rfl | ⟨before, piece, rfl⟩
  · cases last
  · rw [List.concat_eq_append, List.getLast?_concat] at ends
    cases piece with
    | plain d proper =>
      obtain rfl : d = c := by simpa [contentOf, Piece.written] using last
      exact proper.1
    | escaped d =>
      obtain rfl : d = c := by simpa [contentOf, Piece.written] using last
      rintro rfl
      exact ends rfl

theorem dropWhile_quote {s : List Char} (h : ∀ c ∈ s.head?, c ≠ '"') : s.dropWhile (· == '"') = s := by
  cases s with
  | nil => rfl
  | cons c rest =>
    have other := h c rfl
    simp [other]

/-- Where no quote is at the ends, nothing is taken away. -/
theorem unquoted_eq_self {s : List Char} (first : ∀ c ∈ s.head?, c ≠ '"')
    (last : ∀ c ∈ s.getLast?, c ≠ '"') : unquoted s = s := by
  have back : ∀ c ∈ s.reverse.head?, c ≠ '"' := by rwa [List.head?_reverse]
  rw [unquoted, dropWhile_quote first, dropWhile_quote back, List.reverse_reverse]

theorem unquoted_quoted {pieces : List Piece} (ends : pieces.getLast? ≠ some (.escaped '"')) :
    unquoted (quoted pieces) = contentOf pieces := by
  have first := head?_contentOf pieces
  have back : ∀ c ∈ (contentOf pieces).reverse.head?, c ≠ '"' := by
    rw [List.head?_reverse]
    exact getLast?_contentOf ends
  have front : (quoted pieces).dropWhile (· == '"') = (contentOf pieces ++ ['"']).dropWhile (· == '"') := rfl
  cases content : contentOf pieces with
  | nil =>
    rw [unquoted, front, content]
    rfl
  | cons c rest =>
    rw [content] at first back
    have stops : (c :: rest ++ ['"']).dropWhile (· == '"') = c :: rest ++ ['"'] := by
      apply dropWhile_quote
      exact first
    rw [unquoted, front, content, stops, List.reverse_append]
    change ((c :: rest).reverse.dropWhile (· == '"')).reverse = c :: rest
    rw [dropWhile_quote back, List.reverse_reverse]

/-! ## Names -/

/-- A name as it can be written: bare, or in quotes. In quotes, no backslash pairs with a line feed, and the
last part is no escaped quote. -/
inductive NodeId where
  | bare (text : List Char) (nonempty : text ≠ []) (all : ∀ c ∈ text, isNameChar c = true)
  | quoted (pieces : List Piece) (oneLine : .escaped '\n' ∉ pieces)
    (ends : pieces.getLast? ≠ some (.escaped '"'))

namespace NodeId

def written : NodeId → List Char
  | bare text _ _ => text
  | quoted pieces _ _ => Diagram.quoted pieces

def name : NodeId → String
  | bare text _ _ => String.ofList text
  | quoted pieces _ _ => String.ofList (contentOf pieces)

theorem starts (n : NodeId) {after : List Char} (ends : EndsName after) :
    Token.Starts (n.written ++ after) (.name n.written) after := by
  cases n with
  | bare text nonempty all => exact .bare nonempty all ends
  | quoted pieces oneLine _ => exact .quoted oneLine after

theorem unquoted_written (n : NodeId) : String.ofList (unquoted n.written) = n.name := by
  cases n with
  | bare text nonempty all =>
    have noQuote {c : Char} (there : c ∈ text) : c ≠ '"' := ne_quote_of_isNameChar (all c there)
    have same : unquoted text = text := unquoted_eq_self
      (fun c first => noQuote (List.mem_of_mem_head? first))
      (fun c last => noQuote (List.mem_of_getLast? last))
    exact congrArg String.ofList same
  | quoted pieces oneLine ends => exact congrArg String.ofList (unquoted_quoted ends)

end NodeId

/-! ## Hops -/

theorem toNat_of_isNameChar {c : Char} (h : isNameChar c = true) : 46 ≤ c.toNat ∧ c.toNat ≤ 122 := by
  simp only [isNameChar, Text.isDigit, Bool.or_eq_true, Bool.and_eq_true, decide_eq_true_eq, beq_iff_eq,
    Char.le_def, UInt32.le_iff_toNat_le] at h
  have value : c.toNat = c.val.toNat := rfl
  rcases h with (((digit | lower) | upper) | rfl) | rfl
  · change 48 ≤ c.val.toNat ∧ c.val.toNat ≤ 57 at digit
    omega
  · change 97 ≤ c.val.toNat ∧ c.val.toNat ≤ 122 at lower
    omega
  · change 65 ≤ c.val.toNat ∧ c.val.toNat ≤ 90 at upper
    omega
  · decide
  · decide

theorem isBlank_of_isNameChar {c : Char} (h : isNameChar c = true) : Text.isBlank c = false := by
  obtain ⟨low, high⟩ := toNat_of_isNameChar h
  have value : c.toNat = c.val.toNat := rfl
  simp only [Text.isBlank, Bool.or_eq_false_iff, Bool.and_eq_false_iff, decide_eq_false_iff_not,
    beq_eq_false_iff_ne, UInt32.le_iff_toNat_le, ← UInt32.toNat_inj, ne_eq, UInt32.reduceToNat]
  omega
/-- A blank begins no token. -/
theorem Token.atFront?_blank {c : Char} (blank : Text.isBlank c = true) (rest : List Char) :
    Token.atFront? (c :: rest) = none := by
  have noName : isNameChar c = false := by
    by_contra inName
    rw [isBlank_of_isNameChar (by simpa using inName)] at blank
    cases blank
  have noQuote : c ≠ '"' := by
    rintro rfl
    exact absurd blank (by decide)
  have noDash : c ≠ '-' := by
    rintro rfl
    exact absurd blank (by decide)
  exact Token.atFront?_other noQuote noName noDash rest

theorem scan_blanks {blanks : List Char} (all : ∀ c ∈ blanks, Text.isBlank c = true) (s : List Char) :
    scan (blanks ++ s) = behind blanks (scan s) := by
  induction blanks with
  | nil => simp
  | cons c blanks ih =>
    have rest := ih fun d there => all d (List.mem_cons_of_mem _ there)
    rw [List.cons_append, scan_of_gap (Token.atFront?_blank (all c List.mem_cons_self) _), rest,
      behind_behind]
    rfl

/-- An operator and the name behind it, with the blanks in front of each. -/
structure Hop where
  before : List Char
  mark : Char
  after : List Char
  node : NodeId
  isMark : IsMark mark
  blankBefore : ∀ c ∈ before, Text.isBlank c = true
  blankAfter : ∀ c ∈ after, Text.isBlank c = true

namespace Hop

def written (h : Hop) : List Char := h.before ++ '-' :: h.mark :: (h.after ++ h.node.written)

def lexemes (h : Hop) : List Lexeme := [⟨h.before, .operator h.mark⟩, ⟨h.after, .name h.node.written⟩]

theorem scan_append (h : Hop) {s : List Char} (ends : EndsName s) :
    scan (h.written ++ s) = h.lexemes ++ scan s := by
  have node := scan_of_token (h.node.starts ends).atFront?
  have inner : scan (h.after ++ (h.node.written ++ s)) = ⟨h.after, .name h.node.written⟩ :: scan s := by
    rw [scan_blanks h.blankAfter, node]
    simp [behind]
  have operator := scan_of_token (Token.Starts.operator h.isMark (h.after ++ (h.node.written ++ s))).atFront?
  have whole : h.written ++ s =
      h.before ++ '-' :: h.mark :: (h.after ++ (h.node.written ++ s)) := by
    simp [written]
  rw [whole, scan_blanks h.blankBefore, operator, inner]
  simp [behind, lexemes]

/-- No bare name goes on into a hop. -/
theorem endsName (h : Hop) (s : List Char) : EndsName (h.written ++ s) := by
  intro c first
  cases before : h.before with
  | nil =>
    rw [written, before] at first
    obtain rfl : '-' = c := Option.some.inj first
    decide
  | cons d ds =>
    rw [written, before] at first
    obtain rfl : d = c := Option.some.inj first
    have blank := h.blankBefore d (by rw [before]; exact List.mem_cons_self)
    by_contra inName
    rw [isBlank_of_isNameChar (by simpa using inName)] at blank
    cases blank

end Hop

theorem endsName_hops (hops : List Hop) : EndsName (hops.flatMap Hop.written) := by
  cases hops with
  | nil => exact nofun
  | cons h hops => exact h.endsName _

theorem scan_hops (hops : List Hop) : scan (hops.flatMap Hop.written) = hops.flatMap Hop.lexemes := by
  induction hops with
  | nil => rfl
  | cons h hops ih =>
    rw [List.flatMap_cons, List.flatMap_cons, h.scan_append (endsName_hops hops), ih]

theorem edgesOf_hops (gap : List Char) (n : NodeId) (hops : List Hop) :
    edgesOf (⟨gap, .name n.written⟩ :: hops.flatMap Hop.lexemes) =
      List.zipWith Edge.mk (n.name :: hops.map (·.node.name)) (hops.map (·.node.name)) := by
  induction hops generalizing gap n with
  | nil => rfl
  | cons h hops ih =>
    let a : Lexeme := ⟨gap, .name n.written⟩
    let b : Lexeme := ⟨h.before, .operator h.mark⟩
    let c : Lexeme := ⟨h.after, .name h.node.written⟩
    have blanks : h.before.all Text.isBlank && h.after.all Text.isBlank := by
      rw [Bool.and_eq_true, List.all_eq_true, List.all_eq_true]
      exact ⟨h.blankBefore, h.blankAfter⟩
    have edge : edgeOf? a b c = some ⟨n.name, h.node.name⟩ := by
      simp only [edgeOf?, a, b, c, if_pos blanks, NodeId.unquoted_written]
    -- the operator begins no edge, and its name begins the edges of the other hops
    have operator : edgesOf (b :: c :: hops.flatMap Hop.lexemes) =
        edgesOf (c :: hops.flatMap Hop.lexemes) := by
      rw [edgesOf_cons]
      cases hops.flatMap Hop.lexemes <;> rfl
    change edgesOf (a :: b :: c :: hops.flatMap Hop.lexemes) = _
    rw [edgesOf_cons, operator, ih, firstEdge, edge]
    rfl

/-- A name and the hops from it. -/
structure Chain where
  first : NodeId
  hops : List Hop

namespace Chain

def text (c : Chain) : String := String.ofList (c.first.written ++ c.hops.flatMap Hop.written)

def names (c : Chain) : List String := c.first.name :: c.hops.map (·.node.name)

end Chain

/-- A chain has one edge for each hop, from each of its names to the next one. -/
theorem edges_chain (c : Chain) :
    edges c.text = List.zipWith Edge.mk c.names c.names.tail ∧
      (edges c.text).length = c.hops.length := by
  have tokens : scan c.text.toList = ⟨[], .name c.first.written⟩ :: c.hops.flatMap Hop.lexemes := by
    rw [Chain.text, String.toList_ofList,
      scan_of_token (c.first.starts (endsName_hops c.hops)).atFront?, scan_hops]
  have all : edges c.text = List.zipWith Edge.mk c.names c.names.tail := by
    rw [edges, tokens, edgesOf_hops]
    rfl
  refine ⟨all, ?_⟩
  rw [all]
  simp [Chain.names]

example : edges "\"Program\" -> \"Class Main \x7b\"\t--\nmethod_1" =
    [⟨"Program", "Class Main \x7b"⟩, ⟨"Class Main \x7b", "method_1"⟩] := by
  decide +kernel

end CompileDesk.Diagram
