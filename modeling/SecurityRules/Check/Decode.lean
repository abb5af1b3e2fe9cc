import SecurityRules.Check.Report
import SecurityRules.Schema.Decode

/-!
# Reports from JSON

A report may be given as an object. Only its verdict is required; a list that
is not there is empty.
-/

namespace SecurityRules

/-- An attribute that has to be there. -/
def required {α : Type} (key : Text) (decode : Json → Validated α) (entries : Record Json) :
    Validated α :=
  match entries.get? key with
  | none => .invalid [⟨[.key key], .missing⟩]
  | some value => (decode value).under (.key key)

def decodeText (value : Json) : Validated Text :=
  value.scalar.toText

def DanglingReference.decode : Json → Validated DanglingReference
  | .object entries =>
      DanglingReference.mk <$> required "model" decodeText entries
        <*> required "field" decodeText entries
        <*> required "target" decodeText entries
        <*> setting "message" "message" [] decodeText entries
  | _ => .refuse (.notSubject .reference)

def IgnoredRule.decode : Json → Validated IgnoredRule
  | .object entries =>
      IgnoredRule.mk <$> required "model" decodeText entries
        <*> required "field" decodeText entries
        <*> required "kind" decodeText entries
  | _ => .refuse (.notSubject .ignoredRule)

def Report.decode : Json → Validated Report
  | .object entries =>
      let list {α : Type} (key : Text) (decode : Json → Validated α) : Validated (List α) :=
        setting key key [] (decodeList decode) entries
      Report.mk <$> required "valid" decodeFlag entries
        <*> list "dangling_references" DanglingReference.decode
        <*> list "duplicate_models" decodeText
        <*> list "owner_issues" decodeText
        <*> list "unknown_constraints" IgnoredRule.decode
        <*> list "empty_models" decodeText
  | _ => .refuse (.notSubject .report)

/-- A report object on its own. -/
def Report.ofJson (value : Json) : Except Rejection Report :=
  (Report.decode value).result .report

end SecurityRules
