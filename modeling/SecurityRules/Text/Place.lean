import SecurityRules.Text.CodePoint

/-!
# Places in a document

A place is an offset from the start, together with the line and the column that
people count. Lines end at line feeds; lines and columns count from one.
-/

namespace SecurityRules

structure Place where
  line : Nat
  column : Nat
  offset : Nat
  deriving DecidableEq, Repr

/-- The place of an offset in a document. -/
def Text.placeOf (t : Text) (offset : Nat) : Place :=
  let before := t.take offset
  let isBreak (c : CodePoint) : Bool := c = .scalar '\n'
  { line := before.countP isBreak + 1
    column := (before.reverse.takeWhile (!isBreak ·)).length + 1
    offset }

end SecurityRules
