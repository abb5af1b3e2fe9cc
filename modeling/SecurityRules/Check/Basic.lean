import SecurityRules.Check.Report
import SecurityRules.Ruleset.Clause

/-!
# Checking a schema

Compiling never fails on a schema, yet some schemas give rules that cannot be
loaded or that do less than they seem to. The check finds them. Generated code
links models by the names of their validation functions, so that is what
references and names are compared by.
-/

namespace SecurityRules

/-- Each element once, where it first stands. -/
def distinct {α : Type} [BEq α] : List α → List α
  | [] => []
  | a :: rest => a :: (distinct rest).filter (· != a)

/-- The names that share a validation function with another model: one group
for each such function, in the order in which the functions first occur, and
inside a group each name once. -/
def duplicateNames {α : Type} [BEq α] (function : α → Text) (names : List α) : List α :=
  (distinct (names.map function)).flatMap fun f =>
    let group := names.filter (function · == f)
    if group.length > 1 then distinct group else []

/-- The type of a field, if it refers to a model that has no validation
function among those defined. -/
def Field.danglingTarget? (defined : List Text) (f : Field) : Option Text :=
  let type := f.rule .type
  if !type.isBlank && !isPrimitiveType type.display
      && !defined.contains (validatorName type.display) then
    some type.display
  else none

namespace Model

/-- The references of a model that lead nowhere. -/
def dangling (defined : List Text) (m : Model) : List DanglingReference :=
  m.fields.filterMap fun f =>
    (f.danglingTarget? defined).map fun target =>
      { model := m.name, field := f.name, target,
        message := "Field '" ++ m.name ++ "." ++ f.name ++ "' references unknown model '"
          ++ target ++ "'" }

/-- The rules of a model that no clause comes from. -/
def ignored (m : Model) : List IgnoredRule :=
  m.fields.flatMap fun f => f.unknownKeys.map (⟨m.name, f.name, ·⟩)

/-- Whether update or delete is guarded and there is no usable owner field. -/
def isOwnerless (m : Model) : Bool :=
  m.requiresOwner && m.effectiveOwner.isNone

/-- Whether a model has no clauses. -/
def isEmpty (m : Model) : Bool :=
  m.clauses.isEmpty

end Model

namespace Schema

/-- The validation functions that the document of a schema declares. -/
def functions (s : Schema) : List Text :=
  s.map fun m => validatorName m.name

/-- Checks a schema. -/
def check (s : Schema) : Report :=
  let dangling := s.flatMap (Model.dangling s.functions)
  let duplicates := duplicateNames validatorName s.modelNames
  { valid := dangling.isEmpty && duplicates.isEmpty
    dangling
    duplicates
    ownerless := (s.filter Model.isOwnerless).map (·.name)
    ignored := s.flatMap Model.ignored
    empty := (s.filter Model.isEmpty).map (·.name) }

end Schema

end SecurityRules
