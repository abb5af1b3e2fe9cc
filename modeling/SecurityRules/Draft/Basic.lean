import SecurityRules.Schema.Encode

/-!
# Drafts

A draft is a schema that is being edited. Its settings are not checked until it
is loaded again, so each of them may hold any value. Most values have an
obvious reading: what is blank counts as not set, and anything else as set.
Only what is to be gone through as fields has to be fields.
-/

namespace SecurityRules

/-- What stands among the fields of a draft model. -/
inductive DraftItem where
  | field (f : Field)
  | other (value : Json)
  deriving DecidableEq

def DraftItem.toJson : DraftItem → Json
  | field f => f.toJson
  | other value => value

def DraftItem.field? : DraftItem → Option Field
  | field f => some f
  | other _ => none

/-- What stands for the fields of a draft model: a list, or a value of another
type. -/
inductive DraftFields where
  | list (items : List DraftItem)
  | other (value : Json)
  deriving DecidableEq, Inhabited

namespace DraftFields

def ofFields (fields : List Field) : DraftFields :=
  .list (fields.map .field)

def ofJson : Json → DraftFields
  | .array values => .list (values.map .other)
  | value => .other value

def toJson : DraftFields → Json
  | list items => .array (items.map DraftItem.toJson)
  | other value => value

/-- The fields among the items. -/
def fields : DraftFields → List Field
  | list items => items.filterMap DraftItem.field?
  | other _ => []

end DraftFields

/-- Why a value does not serve as a field or as a list of fields. -/
inductive FieldsFault where
  /-- A value without items. -/
  | noItems (value : Json)
  /-- A value without a part that fields or lists have. -/
  | noPart (value : Json) (part : Text)
  deriving DecidableEq

def FieldsFault.message : FieldsFault → Text
  | noItems value => "'" ++ value.typeName ++ "' object is not iterable"
  | noPart value part => "'" ++ value.typeName ++ "' object has no attribute '" ++ part ++ "'"

/-- The items that going through the fields meets: the characters of a text,
the keys of an object. -/
def DraftFields.items : DraftFields → Except FieldsFault (List DraftItem)
  | list items => .ok items
  | other (.string s) => .ok (s.map fun c => .other (.string [c]))
  | other (.object entries) => .ok (entries.map fun (key, _) => .other (.string key))
  | other value => .error (.noItems value)

/-- The first fault among the fields: of a kind of its own, if an item is no
field and lacks the given part. -/
def DraftFields.fault? {α : Type} (part : Text) (ofFault : FieldsFault → α)
    (ofField : Field → Option α) (fields : DraftFields) : Option α :=
  match fields.items with
  | .error fault => some (ofFault fault)
  | .ok items => items.findSome? fun
      | .field f => ofField f
      | .other value => some (ofFault (.noPart value part))

/-- A model whose settings hold any values. -/
structure DraftModel where
  name : Json
  owner : Json
  readAll : Json
  readOne : Json
  create : Json
  update : Json
  delete : Json
  fields : DraftFields
  deriving DecidableEq, Inhabited

/-- The models of a draft, in order. -/
abbrev Draft := List DraftModel

namespace DraftModel

def ofModel (m : Model) : DraftModel :=
  { name := .string m.name
    owner := .string m.owner
    readAll := .bool m.readAll
    readOne := (m.readOne.map Json.bool).getD .null
    create := .bool m.create
    update := .bool m.update
    delete := .bool m.delete
    fields := .ofFields m.fields }

/-- A setting as a text. What is not a text reads as the empty one. -/
def textOf : Json → Text
  | .string s => s
  | _ => []

/-- The model that a draft model reads as. -/
def toModel (m : DraftModel) : Model :=
  { name := textOf m.name
    owner := textOf m.owner
    readAll := !m.readAll.isBlank
    readOne := if m.readOne = .null then none else some !m.readOne.isBlank
    create := !m.create.isBlank
    update := !m.update.isBlank
    delete := !m.delete.isBlank
    fields := m.fields.fields }

/-- A draft model with its values as they are. -/
def toJson (m : DraftModel) : Json :=
  let naming : Record Json :=
    [("name", m.name), ("ownerField", m.owner), ("readAllAuthRequired", m.readAll)]
  let reading : Record Json :=
    if m.readOne = .null then [] else [("readOneAuthRequired", m.readOne)]
  let writing : Record Json :=
    [("createAuthRequired", m.create), ("updateAuthRequired", m.update),
     ("deleteAuthRequired", m.delete), ("fields", m.fields.toJson)]
  .object (naming ++ reading ++ writing)

end DraftModel

namespace Draft

def ofSchema (s : Schema) : Draft :=
  s.map DraftModel.ofModel

/-- The schema that a draft reads as. -/
def toSchema (d : Draft) : Schema :=
  d.map DraftModel.toModel

/-- The document of a draft. -/
def dump (layout : Json.Layout) (d : Draft) : Text :=
  (Json.array (d.map DraftModel.toJson)).write layout

end Draft

end SecurityRules
