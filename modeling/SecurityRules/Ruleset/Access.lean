import SecurityRules.Ruleset.Clause
import SecurityRules.Ruleset.Line

/-!
# Access blocks

The access block of a model says under which condition each operation on its
documents is allowed. Creating and updating also call the model's validation
function on the new document. Reading is one operation, unless the model has a
setting of its own for single documents; then it is split in two.
-/

namespace SecurityRules

/-- Who may carry out an operation. -/
inductive Guard where
  | anyone
  | signedIn
  /-- The signed-in user that a field of the stored document names. -/
  | owner (field : Text)
  deriving DecidableEq, Repr

/-- The name of the function that compares a field with the caller. -/
def ownershipFunction : Text := "ownedByCaller"

/-- The condition that the caller is signed in. -/
def signedInText : Text := "request.auth != null"

def Guard.text : Guard → Text
  | anyone => "true"
  | signedIn => signedInText
  | owner field => signedInText ++ " && " ++ ownershipFunction ++ "(resource.data." ++ field ++ ")"

inductive Operation where
  | read
  | get
  | list
  | create
  | update
  | delete
  deriving DecidableEq, Repr

def Operation.word : Operation → Text
  | read => "read"
  | get => "get"
  | list => "list"
  | create => "create"
  | update => "update"
  | delete => "delete"

/-- An operation, who may carry it out, and the function that has to accept the
new document, if any. -/
structure Allowance where
  operation : Operation
  guard : Guard
  validator : Option Text := none
  deriving DecidableEq, Repr

def Allowance.text (a : Allowance) : Text :=
  let check : Text := match a.validator with
    | none => ""
    | some function => " && " ++ function ++ "(request.resource.data)"
  "allow " ++ a.operation.word ++ ": if " ++ a.guard.text ++ check ++ ";"

namespace Allowance

/-- What follows the condition of a line. -/
def ending (a : Allowance) : Text :=
  match a.validator with
  | none => ";"
  | some function => " && " ++ function ++ "(request.resource.data);"

theorem text_eq (a : Allowance) :
    a.text = "allow " ++ (a.operation.word ++ (": if " ++ (a.guard.text ++ a.ending))) := by
  obtain ⟨operation, guard, validator⟩ := a
  cases validator with
  | none =>
      simp only [text, ending, List.append_assoc]
      rfl
  | some function =>
      simp only [text, ending, List.append_assoc]
      rfl

/-- The validation function that a line calls on the new document: it is read off the
text that follows the guard. -/
def callee? (a : Allowance) : Option Text := do
  let call ← Text.after? ("allow " ++ (a.operation.word ++ (": if " ++ (a.guard.text ++ " && "))))
    a.text
  Text.callee? "request.resource.data" (← Text.before? ";" call)

theorem callee?_validator (operation : Operation) (guard : Guard) (model : Text) :
    callee? ⟨operation, guard, some (validatorName model)⟩ = some (validatorName model) := by
  have htext : text ⟨operation, guard, some (validatorName model)⟩
      = ("allow " ++ (operation.word ++ (": if " ++ (guard.text ++ " && "))))
        ++ (validatorName model ++ "(" ++ "request.resource.data" ++ ")" ++ ";") := by
    rw [text_eq, ending]
    simp [Text.ofString, Text.ofChars]
  simp only [callee?, htext, Text.after?_append, Text.before?_append, Text.callee?_append,
    Option.bind_eq_bind, Option.bind_some]

/-- A line that calls no function ends right after its guard. -/
theorem callee?_none (operation : Operation) (guard : Guard) :
    callee? ⟨operation, guard, none⟩ = none := by
  have hshort : ∀ rest : Text, text ⟨operation, guard, none⟩
      ≠ ("allow " ++ (operation.word ++ (": if " ++ (guard.text ++ " && ")))) ++ rest := by
    intro rest h
    rw [text_eq] at h
    simp only [List.append_assoc, List.append_cancel_left_eq] at h
    cases h
  have hafter : Text.after? ("allow " ++ (operation.word ++ (": if " ++ (guard.text ++ " && "))))
      (text ⟨operation, guard, none⟩) = none :=
    Option.eq_none_iff_forall_ne_some.mpr fun rest h =>
      hshort rest (Text.eq_append_of_after? h)
  rw [callee?, hafter]
  rfl

end Allowance

/-- A guard that is in force only when it is required. -/
def Guard.when (required : Bool) (guard : Guard) : Guard :=
  if required then guard else .anyone

namespace Model

/-- The guard of update and delete when they are guarded: the owner, if the
model has a usable owner field. -/
def ownerGuard (m : Model) : Guard :=
  match m.effectiveOwner with
  | none => .signedIn
  | some field => .owner field

/-- What is allowed on the documents of a model. -/
def allowances (m : Model) : List Allowance :=
  let reading : List Allowance := match m.readOne with
    | none => [⟨.read, .when m.readAll .signedIn, none⟩]
    | some readOne =>
        [⟨.get, .when readOne .signedIn, none⟩, ⟨.list, .when m.readAll .signedIn, none⟩]
  reading ++
    [⟨.create, .when m.create .signedIn, some (validatorName m.name)⟩,
     ⟨.update, .when m.update m.ownerGuard, some (validatorName m.name)⟩,
     ⟨.delete, .when m.delete m.ownerGuard, none⟩]

end Model

/-- Creating and updating call the model's own function. -/
theorem Model.callees_allowances (m : Model) :
    m.allowances.filterMap Allowance.callee? = [validatorName m.name, validatorName m.name] := by
  unfold allowances
  cases m.readOne with
  | none => simp [Allowance.callee?_validator, Allowance.callee?_none]
  | some readOne => simp [Allowance.callee?_validator, Allowance.callee?_none]

/-- The functions that the clauses and the access block of a model call, as they are written. -/
def Model.callees (m : Model) : List Text :=
  m.fields.flatMap Field.callees ++ m.allowances.filterMap Allowance.callee?

/-- The block for the documents of the collection `label`. -/
def accessLines (label : Text) (allowances : List Allowance) : List Line :=
  [⟨2, "match /" ++ label ++ "/\x7b" ++ label ++ "Document\x7d \x7b"⟩]
    ++ allowances.map (fun a => ⟨3, a.text⟩) ++ [⟨2, "\x7d"⟩]

def Model.accessLines (m : Model) : List Line :=
  SecurityRules.accessLines m.name m.allowances

/-- The text of a model's access block, with a line break at its end. -/
def Model.accessBlock (m : Model) : Text :=
  linesText tab m.accessLines ++ "\n"

end SecurityRules
