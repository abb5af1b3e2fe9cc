import SecurityRules.Text.UpperCase

/-!
# Names of validation functions

Each model has a validation function named after it. Functions are linked by
these names, so models whose names differ only in the case of the first
character share one.
-/

namespace SecurityRules

/-- A name with its first character in upper case. -/
def capitalize : Text → Text
  | [] => []
  | c :: rest => c.upper ++ rest

/-- The name of the validation function of a model. -/
def validatorName (model : Text) : Text :=
  "validate" ++ capitalize model ++ "Model"

end SecurityRules
