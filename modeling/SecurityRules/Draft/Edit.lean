import SecurityRules.Draft.Basic
import SecurityRules.Schema.Decode

/-!
# Editing a draft

One edit changes one thing. Models and fields are named by their position, and
a negative position counts from the end. A position has to fit in 64 bits. An
edit that fails changes nothing, except that a model on its way to a position
that does not fit is lost.
-/

namespace SecurityRules

/-- One change to a draft. -/
inductive Edit where
  | addModel (document : Text)
  | removeModel (model : Int)
  | moveModel (model target : Int)
  /-- Gives a setting a value without checking it. -/
  | set (model : Int) (setting : Text) (value : Json)
  | addField (model : Int) (document : Text)
  | removeField (model field : Int)
  /-- Gives a rule a value without checking it. -/
  | setRule (model field : Int) (kind : Text) (value : Json)
  | removeRule (model field : Int) (kind : Text)
  /-- Writes the draft and loads it again. -/
  | reload

/-- Why an edit fails. -/
inductive EditFault where
  | noSuchPosition
  | noSuchCharacter
  | noSuchKey (position : Int)
  | wideIndex
  | widePosition
  | nothingToRemove
  | removedPastEnd
  | fields (fault : FieldsFault)
  /-- A value without positions in place of the fields. -/
  | noPositions (value : Json)
  | unknownSetting (setting : Text)
  | noSuchRule (kind : Text)
  | unread (fault : Json.ReadFault)
  | rejected (rejection : Rejection)
  | unloaded (fault : LoadFault)

def EditFault.message : EditFault → Text
  | noSuchPosition => "list index out of range"
  | noSuchCharacter => "string index out of range"
  | noSuchKey position => Text.ofInt position
  | wideIndex => "cannot fit 'int' into an index-sized integer"
  | widePosition => "Python int too large to convert to C ssize_t"
  | nothingToRemove => "pop from empty list"
  | removedPastEnd => "pop index out of range"
  | fields fault => fault.message
  | noPositions value => "'" ++ value.typeName ++ "' object is not subscriptable"
  | unknownSetting setting => "\"ModelSchema\" object has no field \"" ++ setting ++ "\""
  | noSuchRule kind => kind.quoted
  | unread fault => fault.message
  | rejected rejection => rejection.message
  | unloaded fault => fault.message

/-- Whether a position fits in 64 bits. -/
def fits (position : Int) : Bool :=
  -0x8000000000000000 ≤ position && position < 0x8000000000000000

/-- The place that a position stands for in a list of some length. -/
def place? (length : Nat) (position : Int) : Option Nat :=
  let shifted := if position < 0 then position + length else position
  if 0 ≤ shifted ∧ shifted < length then some shifted.toNat else none

/-- The place to insert at: a position past an end stands for that end. -/
def insertionPlace (length : Nat) (position : Int) : Nat :=
  let shifted := if position < 0 then position + length else position
  min shifted.toNat length

variable {α : Type}

/-- Changes the item at a position. -/
def change (position : Int) (f : α → Except EditFault α) (items : List α) :
    Except EditFault (List α) :=
  if !fits position then .error .wideIndex
  else
    match place? items.length position with
    | none => .error .noSuchPosition
    | some i =>
        match items[i]? with
        | none => .error .noSuchPosition
        | some item => (f item).map (items.set i)

/-- Takes the item at a position out. -/
def takeOut (position : Int) (items : List α) : Except EditFault (α × List α) :=
  if !fits position then .error .widePosition
  else if items.isEmpty then .error .nothingToRemove
  else
    match place? items.length position with
    | none => .error .removedPastEnd
    | some i =>
        match items[i]? with
        | none => .error .removedPastEnd
        | some item => .ok (item, items.eraseIdx i)

/-- Reads a document and checks the value in it. -/
def decodeDocument (decode : Json → Except Rejection α) (document : Text) :
    Except EditFault α :=
  match Json.read document with
  | .error fault => .error (.unread fault)
  | .ok value =>
      match decode value with
      | .error rejection => .error (.rejected rejection)
      | .ok a => .ok a

/-- Gives a setting of a model a value. -/
def DraftModel.set (setting : Text) (value : Json) (m : DraftModel) :
    Except EditFault DraftModel :=
  let setters : Record (DraftModel → DraftModel) :=
    [("name", fun m => { m with name := value }),
     ("owner_field", fun m => { m with owner := value }),
     ("read_all_auth_required", fun m => { m with readAll := value }),
     ("read_one_auth_required", fun m => { m with readOne := value }),
     ("create_auth_required", fun m => { m with create := value }),
     ("update_auth_required", fun m => { m with update := value }),
     ("delete_auth_required", fun m => { m with delete := value }),
     ("fields", fun m => { m with fields := .ofJson value })]
  match setters.get? setting with
  | some setter => .ok (setter m)
  | none => .error (.unknownSetting setting)

/-- Puts an item into a list at a position. -/
def putIn (position : Int) (item : α) (items : List α) : Except EditFault (List α) :=
  if !fits position then .error .widePosition
  else .ok (items.insertIdx (insertionPlace items.length position) item)

namespace DraftFields

/-- Adds a field at the end. -/
def add (document : Text) : DraftFields → Except EditFault DraftFields
  | list items => do
      let f ← decodeDocument Field.ofJson document
      return .list (items ++ [.field f])
  | other value => .error (.fields (.noPart value "append"))

/-- Takes the item at a position out. -/
def remove (position : Int) : DraftFields → Except EditFault DraftFields
  | list items => do return .list (← takeOut position items).2
  | other (.object _) => .error (.noSuchKey position)
  | other value => .error (.fields (.noPart value "pop"))

/-- Changes the rules of the field at a position. -/
def changeRules (position : Int) (f : Record Json → Except EditFault (Record Json)) :
    DraftFields → Except EditFault DraftFields
  | list items => do
      let items ← change position (fun
        | .field field => (f field.rules).map fun rules => .field { field with rules }
        | .other value => .error (.fields (.noPart value "rules"))) items
      return .list items
  | other (.string s) =>
      if !fits position then .error .wideIndex
      else if (place? s.length position).isNone then .error .noSuchCharacter
      else .error (.fields (.noPart (.string s) "rules"))
  | other (.object _) => .error (.noSuchKey position)
  | other value => .error (.noPositions value)

end DraftFields

def DraftModel.changeFields (f : DraftFields → Except EditFault DraftFields) (m : DraftModel) :
    Except EditFault DraftModel :=
  (f m.fields).map fun fields => { m with fields }

namespace Edit

/-- The draft after an edit. -/
def apply (d : Draft) : Edit → Except EditFault Draft
  | addModel document => do
      let m ← decodeDocument Model.ofJson document
      return d ++ [.ofModel m]
  | removeModel model => return (← takeOut model d).2
  | moveModel model target => do
      let (m, rest) ← takeOut model d
      putIn target m rest
  | set model setting value => change model (DraftModel.set setting value) d
  | addField model document =>
      change model (DraftModel.changeFields (DraftFields.add document)) d
  | removeField model field =>
      change model (DraftModel.changeFields (DraftFields.remove field)) d
  | setRule model field kind value =>
      change model (DraftModel.changeFields (DraftFields.changeRules field fun rules =>
        .ok (rules.insert kind value))) d
  | removeRule model field kind =>
      change model (DraftModel.changeFields (DraftFields.changeRules field fun rules =>
        if rules.has kind then .ok (rules.erase kind) else .error (.noSuchRule kind))) d
  | reload =>
      match Schema.load (d.dump Schema.defaultLayout) with
      | .error fault => .error (.unloaded fault)
      | .ok s => .ok (.ofSchema s)

/-- What an edit that fails leaves of a draft. -/
def remainder (d : Draft) : Edit → Draft
  | moveModel model _ =>
      match takeOut model d with
      | .ok (_, rest) => rest
      | .error _ => d
  | _ => d

/-- What goes wrong with an edit, and the draft after it. -/
def attempt (d : Draft) (edit : Edit) : Option EditFault × Draft :=
  match edit.apply d with
  | .ok changed => (none, changed)
  | .error fault => (some fault, edit.remainder d)

end Edit

end SecurityRules
