import SecurityRules.Json.Reader
import SecurityRules.Schema.Basic
import SecurityRules.Schema.Normal
import SecurityRules.Schema.Scalar
import SecurityRules.Stack

/-!
# Schemas from JSON

A schema has two encodings. In the persisted one it is a list of model objects
with camel-case keys; snake-case keys are understood as well, and give way to
the camel-case ones. In the flattened one it is an object from model names to
objects from field names to rules, with no access settings at all.

All issues of one model object are collected, in the order in which its
attributes are declared. A list stops at the first model that has any.
-/

namespace SecurityRules

/-- The value of an attribute and the key it was found under: its camel-case
key if that is there, else its snake-case one. -/
def setting? (camel snake : Text) (entries : Record Json) : Option (Text × Json) :=
  match entries.get? camel with
  | some value => some (camel, value)
  | none => (entries.get? snake).map (snake, ·)

/-- An attribute with a default for when it is not there. -/
def setting {α : Type} (camel snake : Text) (default : α) (decode : Json → Validated α)
    (entries : Record Json) : Validated α :=
  match setting? camel snake entries with
  | none => .valid default
  | some (key, value) => (decode value).under (.key key)

/-- A text, or null for the empty one. -/
def decodeName : Json → Validated Text
  | .null => .valid []
  | value => value.scalar.toText

def decodeFlag (value : Json) : Validated Bool :=
  value.scalar.toFlag

def decodeOptionalFlag : Json → Validated (Option Bool)
  | .null => .valid none
  | value => (decodeFlag value).map some

/-- Decodes the items of a list from a position on. -/
def decodeItems {α : Type} (decode : Json → Validated α) (i : Nat) :
    List Json → Validated (List α)
  | [] => .valid []
  | item :: items =>
      List.cons <$> (decode item).under (.index i) <*> decodeItems decode (i + 1) items

def decodeList {α : Type} (decode : Json → Validated α) : Json → Validated (List α)
  | .array items => decodeItems decode 0 items
  | _ => .refuse .notList

def decodeRules : Json → Validated (Record Json)
  | .object entries =>
      match normalRules entries with
      | .ok rules => .valid rules
      | .error fault => .refuse (.rule fault)
  | _ => .refuse .notRecord

def Field.decode : Json → Validated Field
  | .object entries =>
      Field.mk <$> setting "name" "name" [] decodeName entries
        <*> setting "rules" "rules" [] decodeRules entries
  | _ => .refuse (.notSubject .field)

def Model.decode : Json → Validated Model
  | .object entries =>
      Model.mk <$> setting "name" "name" [] decodeName entries
        <*> setting "ownerField" "owner_field" [] decodeName entries
        <*> setting "readAllAuthRequired" "read_all_auth_required" false decodeFlag entries
        <*> setting "readOneAuthRequired" "read_one_auth_required" none decodeOptionalFlag
          entries
        <*> setting "createAuthRequired" "create_auth_required" false decodeFlag entries
        <*> setting "updateAuthRequired" "update_auth_required" false decodeFlag entries
        <*> setting "deleteAuthRequired" "delete_auth_required" false decodeFlag entries
        <*> setting "fields" "fields" [] (decodeList Field.decode) entries
  | _ => .refuse (.notSubject .model)

/-- A field object on its own. -/
def Field.ofJson (value : Json) : Except Rejection Field :=
  (Field.decode value).result .field

/-- A model object on its own. -/
def Model.ofJson (value : Json) : Except Rejection Model :=
  (Model.decode value).result .model

/-- Why a value encodes no schema. -/
inductive EncodingFault where
  | rejected (rejection : Rejection)
  | modelNotObject (model : Text)
  | rulesNotObject (model field : Text)
  | neitherListNorObject (value : Json)
  deriving DecidableEq

def EncodingFault.message : EncodingFault → Text
  | rejected rejection => rejection.message
  | modelNotObject model => "model '" ++ model ++ "' must map field names to rules"
  | rulesNotObject model field =>
      "rules for '" ++ model ++ "." ++ field ++ "' must be an object"
  | neitherListNorObject value => "expected a list or object, got " ++ value.typeName

/-- The models of a persisted list. -/
def ofPersisted : List Json → Except EncodingFault Schema
  | [] => .ok []
  | item :: items =>
      match Model.ofJson item with
      | .error rejection => .error (.rejected rejection)
      | .ok m => (ofPersisted items).map (m :: ·)

/-- The fields of a flattened model. -/
def ofFlattenedFields (model : Text) : List (Text × Json) → Except EncodingFault (List Field)
  | [] => .ok []
  | (name, .object rules) :: rest =>
      match normalRules rules with
      | .error fault => .error (.rejected ⟨.field, [⟨[.key "rules"], .rule fault⟩]⟩)
      | .ok rules => (ofFlattenedFields model rest).map (⟨name, rules⟩ :: ·)
  | (name, _) :: _ => .error (.rulesNotObject model name)

/-- The models of a flattened object. -/
def ofFlattened : List (Text × Json) → Except EncodingFault Schema
  | [] => .ok []
  | (name, .object fields) :: rest =>
      match ofFlattenedFields name fields with
      | .error fault => .error fault
      | .ok fields => (ofFlattened rest).map ({ name, fields } :: ·)
  | (name, _) :: _ => .error (.modelNotObject name)

/-- The schema that a value encodes. -/
def Schema.ofJson : Json → Except EncodingFault Schema
  | .array items => ofPersisted items
  | .object entries => ofFlattened entries
  | value => .error (.neitherListNorObject value)

/-- Why a document gives no schema. -/
inductive LoadFault where
  | unread (fault : Json.ReadFault)
  | unencoded (fault : EncodingFault)
  /-- The values of the document nest too deep to be read. -/
  | tooDeep
  deriving DecidableEq

/-- A document that is not JSON or not a schema is called an invalid encoding.
An integer of too many digits is reported as such. -/
def LoadFault.message : LoadFault → Text
  | unread (.tooManyDigits count) => tooManyDigitsMessage count
  | unread fault => "Invalid schema encoding: " ++ fault.message
  | unencoded fault => "Invalid schema encoding: " ++ fault.message
  | tooDeep => tooDeepMessage

/-- The schema that a document holds. -/
def Schema.load (document : Text) : Except LoadFault Schema :=
  match Json.read document with
  | .error fault => .error (.unread fault)
  | .ok value =>
      match Schema.ofJson value with
      | .error fault => .error (.unencoded fault)
      | .ok s => .ok s

/-- The schema that a document holds, as far as the stack reaches. -/
def Schema.loadWithin (stack : Stack) (document : Text) : Except LoadFault Schema :=
  if stack.exhaustedBy .json document then .error .tooDeep else Schema.load document

end SecurityRules
