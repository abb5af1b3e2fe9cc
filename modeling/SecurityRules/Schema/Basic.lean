import SecurityRules.Schema.Kind

/-!
# Schemas

A schema is a list of models. A model is one data collection: who may read,
create, update and delete its documents, which field names their owner, and
what each field must look like. Order counts throughout: models, fields and the
rules of a field come out as they went in.
-/

namespace SecurityRules

/-- One named attribute of a model, with its rules in order. -/
structure Field where
  name : Text := []
  rules : Record Json := []
  deriving DecidableEq, Inhabited

/-- One data collection. `readOne` is set when single documents and queries
have read rules of their own. -/
structure Model where
  name : Text := []
  owner : Text := []
  readAll : Bool := false
  readOne : Option Bool := none
  create : Bool := false
  update : Bool := false
  delete : Bool := false
  fields : List Field := []
  deriving DecidableEq, Inhabited

/-- Models in the order in which they come out. -/
abbrev Schema := List Model

namespace Field

/-- The rules of a known kind, in order. -/
def constraints (f : Field) : List (Kind × Json) :=
  f.rules.filterMap fun (key, value) => (Kind.ofKey? key).map (·, value)

/-- The keys of rules that have no known kind, in order. -/
def unknownKeys (f : Field) : List Text :=
  f.rules.keys.filter fun key => (Kind.ofKey? key).isNone

/-- The value under a kind; null if there is none. -/
def rule (f : Field) (kind : Kind) : Json :=
  (f.rules.get? kind.key).getD .null

/-- Whether the field may be left empty. -/
def canBeEmpty (f : Field) : Bool :=
  !(f.rule .canBeEmpty).isBlank

end Field

namespace Model

def fieldNames (m : Model) : List Text :=
  m.fields.map (·.name)

/-- The owner field, if it is one of the model's fields. -/
def effectiveOwner (m : Model) : Option Text :=
  if !m.owner.isEmpty && m.fieldNames.contains m.owner then some m.owner else none

/-- Whether update or delete asks for a signed-in owner. -/
def requiresOwner (m : Model) : Bool :=
  m.update || m.delete

end Model

namespace Schema

def modelNames (s : Schema) : List Text :=
  s.map (·.name)

/-- The first model with a name. -/
def model? (s : Schema) (name : Text) : Option Model :=
  s.find? (·.name = name)

end Schema

end SecurityRules
