import SecurityRules.Text.CodePoint

/-!
# Lines of a rules document

A rules document is made of lines at depths. The depth of a line is structure;
how many blanks stand for one level is a matter of display.
-/

namespace SecurityRules

/-- A line and how deep it is indented. -/
structure Line where
  depth : Nat
  content : Text
  deriving DecidableEq, Repr

/-- A line with its indentation in a unit. -/
def Line.text (unit : Text) (line : Line) : Text :=
  Text.times line.depth unit ++ line.content

/-- Lines as one text, without a line break at the end. -/
def linesText (unit : Text) (lines : List Line) : Text :=
  Text.join "\n" (lines.map (Line.text unit))

/-- The unit of indentation in generated documents. -/
def tab : Text := "\t"

end SecurityRules
