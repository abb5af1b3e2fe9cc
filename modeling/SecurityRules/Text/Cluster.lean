import SecurityRules.Text.Width

/-!
# Clusters

A text on a terminal can only be cut between clusters: a character together
with what takes no column after it, a picture selector, or a character joined
to it. A text fits a width when it is cut or filled up with blanks to take
exactly that many columns.
-/

namespace SecurityRules

/-- A part of a text that is never cut, and the columns it takes. -/
structure Cluster where
  text : Text
  width : Nat
  deriving DecidableEq, Repr

namespace Cluster

/-- Adds code points to a cluster that make it wider by `gain`. -/
def extend (more : Text) (gain : Nat) (cluster : Cluster) : Cluster :=
  { text := cluster.text ++ more, width := cluster.width + gain }

/-- The clusters of a text after those in `done`, the last one first. `last` is
the character that a picture selector may turn into a picture. -/
def collect (done : List Cluster) (last : Option CodePoint) : Text → List Cluster
  | [] => done.reverse
  | c :: rest =>
      match done with
      | [] => collect [⟨[c], c.width⟩] (if c.width = 0 then last else some c) rest
      | cluster :: below =>
          if c = .joiner then
            match rest with
            | [] => (cluster.extend [c] 0 :: below).reverse
            | d :: rest => collect (cluster.extend [c, d] 0 :: below) last rest
          else if c = .pictureSelector && last.any CodePoint.hasPicture then
            collect (cluster.extend [c] 1 :: below) none rest
          else if c.width = 0 then collect (cluster.extend [c] 0 :: below) last rest
          else collect (⟨[c], c.width⟩ :: done) (some c) rest

/-- The text of the clusters that fit in a number of columns. A column that half
of the next cluster would take is blank. -/
def cut (columns : Nat) : List Cluster → Text
  | [] => []
  | cluster :: rest =>
      if columns = 0 then []
      else if cluster.width ≤ columns then cluster.text ++ cut (columns - cluster.width) rest
      else [.scalar ' ']

end Cluster

namespace Text

def clusters (t : Text) : List Cluster :=
  Cluster.collect [] none t

def blanks (n : Nat) : Text :=
  List.replicate n (.scalar ' ')

/-- A text cut or filled up to a width. -/
def fit (columns : Nat) (t : Text) : Text :=
  if t.width ≤ columns then t ++ blanks (columns - t.width)
  else Cluster.cut columns t.clusters

end Text

end SecurityRules
