import SecurityRules.Draft.Basic
import SecurityRules.Ruleset.Document

/-!
# Rules documents of drafts

Names of models and types of fields have to be texts, unless they are blank,
and what stands for fields has to be fields. A draft in which they are has a
rules document: that of the schema it reads as, with each name shown as it is
in the path of its access block.
-/

namespace SecurityRules

/-- Why a value gives no name of a function. -/
inductive NameFault where
  /-- A container cannot be looked up among the built-in types. -/
  | notComparable (value : Json)
  /-- A number has no first character. -/
  | noCharacters (value : Json)
  /-- The first item of a list has no upper case. -/
  | noUpperCase (item : Json)
  /-- A list cannot follow its first item. -/
  | notAppendable (value : Json)
  /-- An object has no first item. -/
  | noFirstItem
  deriving DecidableEq

def NameFault.message : NameFault → Text
  | notComparable value => "unhashable type: '" ++ value.typeName ++ "'"
  | noCharacters value => "'" ++ value.typeName ++ "' object is not subscriptable"
  | noUpperCase item => "'" ++ item.typeName ++ "' object has no attribute 'upper'"
  | notAppendable value => "can only concatenate str (not \"" ++ value.typeName ++ "\") to str"
  | noFirstItem => "0"

/-- Why a value cannot be capitalized. -/
def nameFault? : Json → Option NameFault
  | .null | .string _ | .array [] | .object [] => none
  | .array (.string s :: rest) => some (.notAppendable (.array (.string s :: rest)))
  | .array (item :: _) => some (.noUpperCase item)
  | .object (_ :: _) => some .noFirstItem
  | value => if value.isBlank then none else some (.noCharacters value)

/-- Why the type of a field names neither a built-in type nor a model. -/
def Field.typeFault? (f : Field) : Option NameFault :=
  match f.rule .type with
  | .array (item :: items) => some (.notComparable (.array (item :: items)))
  | .object (entry :: entries) => some (.notComparable (.object (entry :: entries)))
  | value => nameFault? value

/-- Why a draft has no rules document. -/
inductive CompileFault where
  | name (fault : NameFault)
  | fields (fault : FieldsFault)
  deriving DecidableEq

def CompileFault.message : CompileFault → Text
  | name fault => fault.message
  | fields fault => fault.message

/-- The first fault of a model: in its fields, then in its name. -/
def DraftModel.fault? (m : DraftModel) : Option CompileFault :=
  let ofFields := m.fields.fault? "constraints" CompileFault.fields fun f =>
    f.typeFault?.map .name
  ofFields.or ((nameFault? m.name).map .name)

def DraftModel.accessLines (m : DraftModel) : List Line :=
  SecurityRules.accessLines m.name.display m.toModel.allowances

/-- The rules document of a draft. -/
def Draft.compile (d : Draft) : Except CompileFault Text :=
  match d.findSome? DraftModel.fault? with
  | some fault => .error fault
  | none =>
      .ok (linesText tab (frame (d.map fun m => m.toModel.validatorLines)
        (d.map DraftModel.accessLines)))

end SecurityRules
