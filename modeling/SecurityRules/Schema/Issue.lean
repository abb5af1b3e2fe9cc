import SecurityRules.Decimal.Integer
import SecurityRules.Json.Literal
import SecurityRules.Schema.Kind

/-!
# Issues found in a document

Checking a document against the shape it should have collects every issue, each
with its place and its cause. `Validated` is the result of such a check: two
checks are combined by keeping the issues of both, in order.
-/

namespace SecurityRules

/-- Why a rule of a field is not acceptable. -/
inductive RuleFault where
  | notInteger (fault : IntegerFault)
  | mistyped (kind : Kind) (value : Json)
  deriving DecidableEq

def RuleFault.message : RuleFault → Text
  | notInteger fault => fault.message
  | mistyped kind value =>
      "Rule '" ++ kind.key ++ "' must be " ++ kind.expectedType ++ ", got "
        ++ value.typeName ++ ": " ++ value.literal

/-- What a document describes. -/
inductive Subject where
  | model
  | field
  | settings
  | report
  | reference
  | ignoredRule
  deriving DecidableEq, Repr

/-- The name of a subject in messages. -/
def Subject.title : Subject → Text
  | model => "ModelSchema"
  | field => "FieldSchema"
  | settings => "RulegenConfig"
  | report => "SchemaCheckResult"
  | reference => "ReferenceIssue"
  | ignoredRule => "ConstraintIssue"

/-- Why a value is not acceptable in its place. -/
inductive Cause where
  | notText
  | loneHalf
  | notFlag
  | unclearFlag
  | notList
  | notRecord
  | notSubject (subject : Subject)
  | missing
  | rule (fault : RuleFault)
  deriving DecidableEq

def Cause.words : Cause → Text
  | notText => "Input should be a valid string"
  | loneHalf =>
      "Input should be a valid string, unable to parse raw data as a unicode string"
  | notFlag => "Input should be a valid boolean"
  | unclearFlag => "Input should be a valid boolean, unable to interpret input"
  | notList => "Input should be a valid list"
  | notRecord => "Input should be a valid dictionary"
  | notSubject subject =>
      "Input should be a valid dictionary or instance of " ++ subject.title
  | missing => "Field required"
  | rule fault => "Value error, " ++ fault.message

/-- The short name of a cause. -/
def Cause.code : Cause → Text
  | notText => "string_type"
  | loneHalf => "string_unicode"
  | notFlag => "bool_type"
  | unclearFlag => "bool_parsing"
  | notList => "list_type"
  | notRecord => "dict_type"
  | notSubject _ => "model_type"
  | missing => "missing"
  | rule _ => "value_error"

/-- One step on the way to a place in a document. -/
inductive PathStep where
  | key (k : Text)
  | index (i : Nat)
  deriving DecidableEq, Repr

def PathStep.text : PathStep → Text
  | key k => k
  | index i => Text.ofNat i

structure Issue where
  path : List PathStep
  cause : Cause
  deriving DecidableEq

/-- The lines of an issue: its place, unless that is the whole document, and
what is wrong there. -/
def Issue.lines (issue : Issue) : List Text :=
  let what : Text := "  " ++ issue.cause.words ++ " [type=" ++ issue.cause.code ++ "]"
  match issue.path with
  | [] => [what]
  | path => [Text.join "." (path.map PathStep.text), what]

/-- A document that was refused, with the issues found in it. -/
structure Rejection where
  subject : Subject
  issues : List Issue
  deriving DecidableEq

def Rejection.message (r : Rejection) : Text :=
  let count := r.issues.length
  let headline : Text :=
    Text.ofNat count ++ " validation error" ++ (if count = 1 then "" else "s") ++ " for "
      ++ r.subject.title
  Text.join "\n" (headline :: r.issues.flatMap Issue.lines)

/-- A value, or all the issues that stood in its way. -/
inductive Validated (α : Type) where
  | valid (a : α)
  | invalid (issues : List Issue)

namespace Validated

variable {α β : Type}

def map (f : α → β) : Validated α → Validated β
  | valid a => valid (f a)
  | invalid issues => invalid issues

/-- Combines two checks and keeps the issues of both. -/
def seq (f : Validated (α → β)) (a : Validated α) : Validated β :=
  match f, a with
  | valid f, valid a => valid (f a)
  | valid _, invalid issues => invalid issues
  | invalid issues, valid _ => invalid issues
  | invalid issues, invalid more => invalid (issues ++ more)

instance : Functor Validated where
  map := map

instance : Applicative Validated where
  pure := valid
  seq f a := seq f (a ())

/-- A single issue with the value at hand. -/
def refuse (cause : Cause) : Validated α :=
  invalid [⟨[], cause⟩]

/-- Moves the issues of a part to the part's place. -/
def under (step : PathStep) : Validated α → Validated α
  | valid a => valid a
  | invalid issues => invalid (issues.map fun issue => { issue with path := step :: issue.path })

/-- The value, or the rejection of a subject. -/
def result (subject : Subject) : Validated α → Except Rejection α
  | valid a => .ok a
  | invalid issues => .error ⟨subject, issues⟩

end Validated

end SecurityRules
