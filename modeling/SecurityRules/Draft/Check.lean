import SecurityRules.Check.Basic
import SecurityRules.Check.Decode
import SecurityRules.Draft.Compile

/-!
# Checking a draft

A report holds names as texts. A draft model without such a name is fine as
long as there is nothing to say about it.
-/

namespace SecurityRules

/-- Why a draft has no report. -/
inductive DraftFault where
  | name (fault : NameFault)
  | fields (fault : FieldsFault)
  | rejected (rejection : Rejection)
  deriving DecidableEq

def DraftFault.message : DraftFault → Text
  | name fault => fault.message
  | fields fault => fault.message
  | rejected rejection => rejection.message

/-- Whether a value is a number or flag that equals zero. -/
def isZero : Json → Bool
  | .bool b => !b
  | .int n => n = 0
  | .float x => x.isZero
  | _ => false

/-- Whether two values are the same name. All zeros are. -/
def sameName (a b : Json) : Bool :=
  a = b || (isZero a && isZero b)

def isContainer : Json → Bool
  | .array _ | .object _ => true
  | _ => false

namespace Draft

def names (d : Draft) : List Json :=
  d.map (·.name)

/-- The names that share a validation function with another model. -/
def duplicates (d : Draft) : List Json :=
  @duplicateNames Json ⟨sameName⟩ (fun name => validatorName (DraftModel.textOf name)) d.names

/-- A container among names that have to be told apart. -/
def incomparable? (d : Draft) : Option NameFault :=
  (d.duplicates.find? isContainer).map .notComparable

/-- Refuses a name that is no text in a finding on a model. -/
def requireName (subject : Subject) (name : Json) : Option DraftFault :=
  match (required "model" decodeText [("model", name)]).result subject with
  | .ok _ => none
  | .error rejection => some (.rejected rejection)

/-- The first fault that checking a field meets. -/
def fieldFault? (defined : List Text) (name : Json) (f : Field) : Option DraftFault :=
  match f.typeFault? with
  | some fault => some (.name fault)
  | none =>
      let reference :=
        if (f.danglingTarget? defined).isSome then requireName .reference name else none
      reference.or
        (if f.unknownKeys.isEmpty then none else requireName .ignoredRule name)

/-- The names in a report. -/
def reportedNames (d : Draft) : Validated (List Text × List Text × List Text) :=
  let decode (key : Text) (names : List Json) : Validated (List Text) :=
    (decodeList decodeText (.array names)).under (.key key)
  let namesOf (holds : Model → Bool) : List Json :=
    names (d.filter fun m => holds m.toModel)
  (fun duplicates ownerless empty => (duplicates, ownerless, empty))
    <$> decode "duplicate_models" d.duplicates
    <*> decode "owner_issues" (namesOf Model.isOwnerless)
    <*> decode "empty_models" (namesOf Model.isEmpty)

/-- The first fault that checking a draft meets. -/
def fault? (d : Draft) : Option DraftFault :=
  let ofNames := ((d.names.findSome? nameFault?).or d.incomparable?).map DraftFault.name
  let ofFields := d.findSome? fun m =>
    m.fields.fault? "rules" DraftFault.fields (fieldFault? d.toSchema.functions m.name)
  let ofReport :=
    match d.reportedNames.result .report with
    | .ok _ => none
    | .error rejection => some (DraftFault.rejected rejection)
  ofNames.or (ofFields.or ofReport)

/-- Checks a draft. -/
def check (d : Draft) : Except DraftFault Report :=
  match d.fault? with
  | some fault => .error fault
  | none => .ok d.toSchema.check

end Draft

end SecurityRules
