import SecurityRules.Json.Basic

/-!
# Kinds of constraints

The five kinds that a rule of a field may have, and the built-in value types.
Any other `type` names a model.
-/

namespace SecurityRules

inductive Kind where
  | type
  | regex
  | minLength
  | maxLength
  | canBeEmpty
  deriving DecidableEq, Repr

namespace Kind

/-- The key under which a kind stands among the rules of a field. -/
def key : Kind → Text
  | type => "type"
  | regex => "regex"
  | minLength => "minLength"
  | maxLength => "maxLength"
  | canBeEmpty => "canBeEmpty"

def all : List Kind :=
  [type, regex, minLength, maxLength, canBeEmpty]

/-- The kind that a key stands for, if it is a known one. -/
def ofKey? (k : Text) : Option Kind :=
  all.find? (·.key = k)

def isLength : Kind → Bool
  | minLength | maxLength => true
  | _ => false

/-- Whether a value has the type that a kind asks for. -/
def admits : Kind → Json → Bool
  | type, .string _ | regex, .string _ => true
  | minLength, .int _ | maxLength, .int _ => true
  | canBeEmpty, .bool _ => true
  | _, _ => false

/-- The word for the type that a kind asks for. -/
def expectedType : Kind → Text
  | type | regex => "str"
  | minLength | maxLength => "int"
  | canBeEmpty => "bool"

end Kind

/-- The built-in value types. -/
def primitiveTypes : List Text :=
  ["string", "number", "boolean", "object", "array"]

/-- Whether a type is built in, and so does not refer to a model. -/
def isPrimitiveType (name : Text) : Bool :=
  primitiveTypes.contains name

end SecurityRules
