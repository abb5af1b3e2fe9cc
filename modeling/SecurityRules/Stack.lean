import SecurityRules.Text.CodePoint

/-!
# Room for nested values

A value inside of a value takes room on the stack of the reader, and a document
that nests too deep cannot be read. How much room a level takes depends on the
reader and on what else is under way, so a stack is known here by the documents
that exhaust it. All that is certain is that documents which open few brackets
do not.
-/

namespace SecurityRules

/-- How documents are written. -/
inductive Format where
  | json
  | toml
  deriving DecidableEq, Repr

/-- The number of brackets and braces that a text opens. Its values are nested no
deeper than that. -/
def Text.openings (t : Text) : Nat :=
  t.countP fun c => c = .scalar '[' || c = .scalar '\x7b'

/-- The room that a reader has. -/
structure Stack where
  /-- So many brackets may be open at once, whatever else a document holds. -/
  room : Nat := 0
  exhaustedBy : Format → Text → Bool := fun _ _ => false
  spares : ∀ format t, t.openings ≤ room → exhaustedBy format t = false := by
    exact fun _ _ _ => rfl

/-- What is said of a document that exhausts the stack. -/
def tooDeepMessage : Text :=
  "maximum recursion depth exceeded"

end SecurityRules
