import CompileDesk.Diagram.Token

/-! # The edges of a diagram

An edge is a name, an operator and a name with only blanks between them. In a chain every name but the
outer ones ends one edge and begins the next. The name that is shown is the written one without the
quotes at its ends.
-/

namespace CompileDesk

structure Edge where
  source : String
  target : String
  deriving DecidableEq, Repr

namespace Diagram

def unquoted (written : List Char) : List Char :=
  ((written.dropWhile (· == '"')).reverse.dropWhile (· == '"')).reverse

/-- The edge that three neighbouring tokens make, if they do. -/
def edgeOf? (a b c : Lexeme) : Option Edge :=
  match a.token, b.token, c.token with
  | .name x, .operator _, .name y =>
    if b.gap.all Text.isBlank && c.gap.all Text.isBlank then
      some ⟨String.ofList (unquoted x), String.ofList (unquoted y)⟩
    else none
  | _, _, _ => none

def edgesOf : List Lexeme → List Edge
  | a :: b :: c :: rest => (edgeOf? a b c).toList ++ edgesOf (b :: c :: rest)
  | _ => []

def edges (source : String) : List Edge := edgesOf (scan source.toList)

end Diagram
end CompileDesk
