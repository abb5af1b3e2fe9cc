import SecurityRules.Ruleset.Clause
import SecurityRules.Ruleset.Line

/-!
# Validation functions

The validation function of a model returns the conjunction of its clauses, one
on each line. The empty conjunction is `true`.
-/

namespace SecurityRules

/-- Clauses joined by `&&` and ended by a semicolon, line by line. -/
def conjunction : List Text → List Text
  | [] => ["true;"]
  | [clause] => [clause ++ ";"]
  | clause :: clauses => (clause ++ " &&") :: conjunction clauses

/-- A function that returns a conjunction of clauses on its argument. -/
def functionLines (name argument : Text) (clauses : List Text) : List Line :=
  [⟨2, "function " ++ name ++ "(" ++ argument ++ ") \x7b"⟩, ⟨3, "return"⟩]
    ++ (conjunction clauses).map (⟨4, ·⟩) ++ [⟨2, "\x7d"⟩]

/-- The validation function of a model. -/
def Model.validatorLines (m : Model) : List Line :=
  functionLines (validatorName m.name) "data" (m.clauses.map Clause.text)

/-- The text of a model's validation function. -/
def Model.validator (m : Model) : Text :=
  linesText tab m.validatorLines

end SecurityRules
