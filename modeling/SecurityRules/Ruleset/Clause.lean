import SecurityRules.Json.Literal
import SecurityRules.Ruleset.Name
import SecurityRules.Schema.Basic

/-!
# Clauses

A constraint on a field becomes a clause: a condition on the document `data`
that is to be written. A constraint whose value is blank says nothing and has
no clause. Values stand in clauses as they are; nothing in them is escaped.
-/

namespace SecurityRules

/-- One condition on a field of a document. -/
inductive Clause where
  /-- The field has a built-in type. -/
  | hasType (field type : Text)
  /-- The field matches a pattern. -/
  | matchesPattern (field pattern : Text)
  /-- The field is empty or matches a pattern. -/
  | emptyOrMatches (field pattern : Text)
  | lengthAtMost (field bound : Text)
  | lengthAtLeast (field bound : Text)
  /-- The field is a document of another model. -/
  | validates (field model : Text)
  deriving DecidableEq, Repr

namespace Clause

def text : Clause → Text
  | hasType field type => "data." ++ field ++ " is " ++ type
  | matchesPattern field pattern => "data." ++ field ++ ".matches('" ++ pattern ++ "')"
  | emptyOrMatches field pattern =>
      "(data." ++ field ++ " == '' || data." ++ field ++ ".matches('" ++ pattern ++ "'))"
  | lengthAtMost field bound => "data." ++ field ++ ".length <= " ++ bound
  | lengthAtLeast field bound => "data." ++ field ++ ".length >= " ++ bound
  | validates field model => validatorName model ++ "(data." ++ field ++ ")"

end Clause

/-- The clause of a kind on its own. `canBeEmpty` has none; it only changes
what a pattern asks for. -/
def Kind.clause? (kind : Kind) (field value : Text) : Option Clause :=
  match kind with
  | .type => some (.hasType field value)
  | .regex => some (.matchesPattern field value)
  | .maxLength => some (.lengthAtMost field value)
  | .minLength => some (.lengthAtLeast field value)
  | .canBeEmpty => none

namespace Field

/-- The clause of one constraint of a field. -/
def clause? (f : Field) (kind : Kind) (value : Json) : Option Clause :=
  if value.isBlank then none
  else
    match kind with
    | .type =>
        if isPrimitiveType value.display then some (.hasType f.name value.display)
        else some (.validates f.name value.display)
    | .regex =>
        if f.canBeEmpty then some (.emptyOrMatches f.name value.display)
        else some (.matchesPattern f.name value.display)
    | kind => kind.clause? f.name value.display

/-- The clauses of a field, in the order of its rules. -/
def clauses (f : Field) : List Clause :=
  f.constraints.filterMap fun (kind, value) => f.clause? kind value

end Field

/-- The clauses of a model, in the order of its fields and their rules. -/
def Model.clauses (m : Model) : List Clause :=
  m.fields.flatMap Field.clauses

/-! ## Calls of validation functions

A clause that hands a field on is a call, and what it calls can be read off its
text: it is what stands before the argument. No other clause starts with the
word that the names of validation functions start with. -/

/-- The validation function that a text calls on an argument, if it is such a call. -/
def Text.callee? (argument t : Text) : Option Text :=
  (Text.before? ("(" ++ argument ++ ")") t).filter fun function =>
    (Text.after? "validate" function).isSome

theorem Text.callee?_append (argument model : Text) :
    Text.callee? argument (validatorName model ++ "(" ++ argument ++ ")")
      = some (validatorName model) := by
  have hname : (Text.after? "validate" (validatorName model)).isSome := by
    rw [validatorName, List.append_assoc, after?_append, Option.isSome_some]
  rw [List.append_assoc, List.append_assoc, ← List.append_assoc "(" argument, Text.callee?,
    before?_append, Option.filter_some, if_pos hname]

theorem Text.callee?_eq_none {argument t : Text} (h : t.head? ≠ some (.scalar 'v')) :
    Text.callee? argument t = none := by
  refine Option.eq_none_iff_forall_ne_some.mpr fun function hcallee => h ?_
  obtain ⟨hbefore, hopens⟩ := Option.filter_eq_some_iff.mp hcallee
  obtain ⟨rest, hrest⟩ := Option.isSome_iff_exists.mp hopens
  rw [eq_append_of_before? hbefore, eq_append_of_after? hrest]
  rfl

namespace Clause

/-- The model that a clause hands a field to. -/
def target? : Clause → Option Text
  | validates _ model => some model
  | _ => none

theorem callee?_text {clause : Clause} (h : clause.target? = none) (argument : Text) :
    Text.callee? argument clause.text = none := by
  refine Text.callee?_eq_none fun hhead => ?_
  cases clause with
  | validates => cases h
  | hasType | matchesPattern | emptyOrMatches | lengthAtMost | lengthAtLeast => cases hhead

end Clause

namespace Field

/-- The models that the clauses of a field hand it to. -/
def targets (f : Field) : List Text :=
  f.clauses.filterMap Clause.target?

/-- The clauses of a field that call a validation function, as they are written. -/
def calls (f : Field) : List Text :=
  f.clauses.filterMap fun clause => clause.target?.map fun _ => clause.text

/-- The validation functions that the clauses of a field call on it, read off their text. -/
def callees (f : Field) : List Text :=
  f.clauses.filterMap fun clause => Text.callee? ("data." ++ f.name) clause.text

/-- The clauses of a field are calls on the field, or no calls. -/
theorem filterMap_clauses {α : Type} (f : Field) {g h : Clause → Option α}
    (hcall : ∀ model, g (.validates f.name model) = h (.validates f.name model))
    (hother : ∀ clause, clause.target? = none → g clause = h clause) :
    f.clauses.filterMap g = f.clauses.filterMap h := by
  rw [clauses, List.filterMap_filterMap, List.filterMap_filterMap]
  congr 1
  funext e
  obtain ⟨kind, value⟩ := e
  simp only [clause?]
  split
  · rfl
  · cases kind with
    | type =>
        simp only
        split
        · exact hother _ rfl
        · exact hcall _
    | regex =>
        simp only
        split <;> exact hother _ rfl
    | minLength | maxLength => exact hother _ rfl
    | canBeEmpty => rfl

theorem calls_eq (f : Field) :
    f.calls = f.targets.map fun target => validatorName target ++ "(data." ++ f.name ++ ")" := by
  rw [calls, targets, List.map_filterMap]
  refine f.filterMap_clauses (fun model => rfl) fun clause hclause => ?_
  rw [hclause, Option.map_none, Option.map_none]

/-- The functions that the clauses call are those of the models they refer to. -/
theorem callees_eq (f : Field) : f.callees = f.targets.map validatorName := by
  rw [callees, targets, List.map_filterMap]
  refine f.filterMap_clauses (fun model => ?_) fun clause hclause => ?_
  · have htext : (Clause.validates f.name model).text
        = validatorName model ++ "(" ++ ("data." ++ f.name) ++ ")" := by
      simp [Clause.text, Text.ofString, Text.ofChars]
    rw [htext, Text.callee?_append, Clause.target?, Option.map_some]
  · rw [Clause.callee?_text hclause, hclause, Option.map_none]

end Field

end SecurityRules
