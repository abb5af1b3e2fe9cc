import SecurityRules.Schema.Issue

/-!
# Normal rules

Rules come from an editor with text boxes, so an empty text means absent and a
length may be a text that spells an integer. Normalising replaces the one by
null and the other by its number, key by key and without moving any, and
refuses a known kind whose value then has the wrong type.
-/

namespace SecurityRules

/-- What the text under a kind stands for. -/
def Kind.ofInput (kind : Kind) (s : Text) : Except RuleFault Json :=
  if kind.isLength then
    match s.trim.toInteger with
    | .ok n => .ok (.int n)
    | .error fault => .error (.notInteger fault)
  else .ok (.string s)

/-- The value under a known kind, if it has the kind's type or is null. -/
def Kind.demand (kind : Kind) (value : Json) : Except RuleFault Json :=
  if value = .null ∨ kind.admits value then .ok value else .error (.mistyped kind value)

/-- The normal form of the value under a key. -/
def normalValue (key : Text) (value : Json) : Except RuleFault Json :=
  match Kind.ofKey? key, value with
  | _, .string [] => .ok .null
  | none, value => .ok value
  | some kind, .string s => (kind.ofInput s).bind kind.demand
  | some kind, value => kind.demand value

/-- The normal form of the rules of a field, or the fault of the first rule
that has one. -/
def normalRules : Record Json → Except RuleFault (Record Json)
  | [] => .ok []
  | (key, value) :: rest =>
      match normalValue key value with
      | .error fault => .error fault
      | .ok value => (normalRules rest).map ((key, value) :: ·)

end SecurityRules
