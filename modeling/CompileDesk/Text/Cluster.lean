import CompileDesk.Text.Cluster.Role

/-! # Clusters

A cluster is what a reader takes for one character: a character with its marks, a syllable block, a flag
of two letters, pictures tied by joiners. Text is cut into clusters from the left; whether a character
joins the cluster before it depends on the end of that cluster alone. Nothing is lost: the clusters of
a text make up the text (`flatten_clusters`).
-/

namespace CompileDesk.Text.Cluster

/-- The end of a cluster, as far as it decides what joins it. The role is that of the last character. A
cluster ends in a picture or in a consonant when only marks follow that one; the consonant is linked when
a linker is among them. The picture is tied when a joiner comes right after. -/
structure Ending where
  role : Role := .control
  picture : Bool := false
  tied : Bool := false
  consonant : Bool := false
  linked : Bool := false
  oddFlags : Bool := false
  deriving DecidableEq, Repr

namespace Ending

/-- Whether a role is that of a mark after which a picture still counts as the end. -/
def keepsPicture (r : Role) : Bool := r == .mark || r == .linker || r == .nonJoiner

/-- Whether a role is that of a mark after which a consonant still counts as the end. -/
def keepsConsonant (r : Role) : Bool := r == .mark || r == .linker || r == .joiner

def after (e : Ending) (r : Role) : Ending where
  role := r
  picture := r == .picture || (e.picture && keepsPicture r)
  tied := e.picture && r == .joiner
  consonant := r == .consonant || (e.consonant && keepsConsonant r)
  linked := (e.consonant && r == .linker) || (e.linked && keepsConsonant r)
  oddFlags := r == .flag && !(e.role == .flag && e.oddFlags)

def joins (e : Ending) (r : Role) : Bool :=
  match e.role, r with
  | .carriageReturn, .lineFeed => true
  | .carriageReturn, _ | .lineFeed, _ | .control, _ => false
  | _, .carriageReturn | _, .lineFeed | _, .control => false
  | .leading, .leading | .leading, .vowel | .leading, .openSyllable | .leading, .closedSyllable => true
  | .openSyllable, .vowel | .openSyllable, .trailing | .vowel, .vowel | .vowel, .trailing => true
  | .closedSyllable, .trailing | .trailing, .trailing => true
  | _, .mark | _, .linker | _, .nonJoiner | _, .joiner | _, .spacing => true
  | .opening, _ => true
  | _, .consonant => e.linked
  | .joiner, .picture => e.tied
  | .flag, .flag => e.oddFlags
  | _, _ => false

end Ending

/-- The clusters of a text, after a cluster under way, given in reverse with its end. -/
def clustersGo : Ending → List Char → List Char → List (List Char)
  | _, under, [] => if under.isEmpty then [] else [under.reverse]
  | e, under, c :: rest =>
    if !under.isEmpty && !e.joins (role c) then
      under.reverse :: clustersGo (Ending.after {} (role c)) [c] rest
    else clustersGo (e.after (role c)) (c :: under) rest

def clusters (s : List Char) : List (List Char) := clustersGo {} [] s

private theorem flatten_clustersGo (e : Ending) (under s : List Char) :
    (clustersGo e under s).flatten = under.reverse ++ s := by
  induction s generalizing e under with
  | nil => cases under <;> simp [clustersGo]
  | cons c rest ih =>
    unfold clustersGo
    split
    · simp [ih]
    · simp [ih]

theorem flatten_clusters (s : List Char) : (clusters s).flatten = s := by
  simp [clusters, flatten_clustersGo]

end CompileDesk.Text.Cluster
