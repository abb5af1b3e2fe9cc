import SecurityRules.Decimal.Binary64
import SecurityRules.Record

/-!
# JSON values

The values that documents hold and that constraints carry. Integers and
floating-point numbers are kept apart, and an object keeps its keys in order.
-/

namespace SecurityRules

inductive Json where
  | null
  | bool (b : Bool)
  | int (n : Int)
  | float (x : Binary64)
  | string (s : Text)
  | array (items : List Json)
  | object (entries : List (Text × Json))
  deriving Inhabited

namespace Json

mutual

/-- Equality of values, decided along their structure. -/
def decideEq : (a b : Json) → Decidable (a = b)
  | .null, .null => isTrue rfl
  | .bool a, .bool b => decidable_of_iff (a = b) (by simp)
  | .int a, .int b => decidable_of_iff (a = b) (by simp)
  | .float a, .float b => decidable_of_iff (a = b) (by simp)
  | .string a, .string b => decidable_of_iff (a = b) (by simp)
  | .array as, .array bs =>
      haveI := decideItemsEq as bs
      decidable_of_iff (as = bs) (by simp)
  | .object as, .object bs =>
      haveI := decideEntriesEq as bs
      decidable_of_iff (as = bs) (by simp)
  | .null, .bool _ | .null, .int _ | .null, .float _ | .null, .string _ | .null, .array _
  | .null, .object _ | .bool _, .null | .bool _, .int _ | .bool _, .float _
  | .bool _, .string _ | .bool _, .array _ | .bool _, .object _ | .int _, .null
  | .int _, .bool _ | .int _, .float _ | .int _, .string _ | .int _, .array _
  | .int _, .object _ | .float _, .null | .float _, .bool _ | .float _, .int _
  | .float _, .string _ | .float _, .array _ | .float _, .object _ | .string _, .null
  | .string _, .bool _ | .string _, .int _ | .string _, .float _ | .string _, .array _
  | .string _, .object _ | .array _, .null | .array _, .bool _ | .array _, .int _
  | .array _, .float _ | .array _, .string _ | .array _, .object _ | .object _, .null
  | .object _, .bool _ | .object _, .int _ | .object _, .float _ | .object _, .string _
  | .object _, .array _ => isFalse nofun

def decideItemsEq : (as bs : List Json) → Decidable (as = bs)
  | [], [] => isTrue rfl
  | a :: as, b :: bs =>
      haveI := decideEq a b
      haveI := decideItemsEq as bs
      decidable_of_iff (a = b ∧ as = bs) (by simp)
  | [], _ :: _ | _ :: _, [] => isFalse nofun

def decideEntriesEq : (as bs : List (Text × Json)) → Decidable (as = bs)
  | [], [] => isTrue rfl
  | (key, a) :: as, (key', b) :: bs =>
      haveI := decideEq a b
      haveI := decideEntriesEq as bs
      decidable_of_iff ((key = key' ∧ a = b) ∧ as = bs) (by simp)
  | [], _ :: _ | _ :: _, [] => isFalse nofun

end

instance : DecidableEq Json := decideEq

/-- Whether a value says nothing: null, false, zero, or something empty. A
constraint with such a value counts as absent. -/
def isBlank : Json → Bool
  | null => true
  | bool b => !b
  | int n => n == 0
  | float x => x.isZero
  | string s => s.isEmpty
  | array items => items.isEmpty
  | object entries => entries.isEmpty

/-- The word for a value's type in messages. -/
def typeName : Json → Text
  | null => "NoneType"
  | bool _ => "bool"
  | int _ => "int"
  | float _ => "float"
  | string _ => "str"
  | array _ => "list"
  | object _ => "dict"

end Json

end SecurityRules
