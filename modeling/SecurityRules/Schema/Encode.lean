import SecurityRules.Json.Writer
import SecurityRules.Schema.Basic

/-!
# Schemas to JSON

Only the persisted encoding is written. Its keys always come in the same order,
and the key for reading single documents is left out when it is not set.
-/

namespace SecurityRules

def Field.toJson (f : Field) : Json :=
  .object [("name", .string f.name), ("rules", .object f.rules)]

def Model.toJson (m : Model) : Json :=
  let naming : Record Json :=
    [("name", .string m.name), ("ownerField", .string m.owner),
     ("readAllAuthRequired", .bool m.readAll)]
  let reading : Record Json :=
    match m.readOne with
    | none => []
    | some required => [("readOneAuthRequired", .bool required)]
  let writing : Record Json :=
    [("createAuthRequired", .bool m.create), ("updateAuthRequired", .bool m.update),
     ("deleteAuthRequired", .bool m.delete), ("fields", .array (m.fields.map Field.toJson))]
  .object (naming ++ reading ++ writing)

namespace Schema

def toJson (s : Schema) : Json :=
  .array (s.map Model.toJson)

/-- The document of a schema. -/
def dump (layout : Json.Layout) (s : Schema) : Text :=
  s.toJson.write layout

/-- The layout of a schema document when nothing else is asked for. -/
def defaultLayout : Json.Layout :=
  .spaces 2

end Schema

end SecurityRules
