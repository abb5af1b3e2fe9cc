import SecurityRules.Console.Parameter.Grammar

/-!
# Literals in parameters

Parameters have to be a literal: a constant, a number with a sign, a number
with an imaginary part, or a tuple, set or dictionary of literals. What a set
holds and the keys of a dictionary have to be comparable, which sets and
dictionaries are not.
-/

namespace SecurityRules.Parameter

/-- Why an expression is no literal. -/
inductive LiteralFault where
  /-- The expression has to be worked out first. -/
  | notLiteral
  /-- A dictionary takes over the pairs of another. -/
  | noKey
  | unhashable (kind : String)
  /-- A whole number cannot be added to an imaginary one. -/
  | tooLarge
  deriving DecidableEq, Repr

/-- The smallest whole number that is too large to be rounded to a binary
fraction of 53 digits with an exponent of up to 1023. -/
def tooLargeFrom : Nat := ((1 <<< 54) - 1) <<< 970

/-- A number, possibly with a sign. -/
def signedNumber? : Node → Option Number
  | .constant (.number n) => some n
  | .compound .plus [.constant (.number n)] => some n
  | .compound .minus [.constant (.number n)] => some n
  | _ => none

/-- The sum or difference of a number and an imaginary one. -/
def complexFault? (left right : Node) : Option LiteralFault :=
  match signedNumber? left, right with
  | some (.whole n), .constant (.number .imaginary) =>
      if tooLargeFrom ≤ n then some .tooLarge else none
  | some .fractional, .constant (.number .imaginary) => none
  | _, _ => some .notLiteral

mutual

/-- What kind of value a literal has, as far as it is not comparable. -/
def Node.literal : Node → Except LiteralFault (Option String)
  | .name _ => .error .notLiteral
  | .constant _ => .ok none
  | .compound form parts =>
      match form with
      | .tuple => tupleLiteral parts
      | .set => do
          setLiteral parts
          return some "set"
      | .dictionary => do
          dictionaryLiteral parts
          return some "dict"
      | .call =>
          match parts with
          | [.name "set"] => .ok (some "set")
          | _ => .error .notLiteral
      | .sum | .difference =>
          match parts with
          | [left, right] =>
              match complexFault? left right with
              | some fault => .error fault
              | none => .ok none
          | _ => .error .notLiteral
      | form =>
          if (signedNumber? (.compound form parts)).isSome then .ok none else .error .notLiteral

/-- A tuple is as comparable as its items. -/
def tupleLiteral : List Node → Except LiteralFault (Option String)
  | [] => .ok none
  | item :: rest => do
      let first ← item.literal
      let others ← tupleLiteral rest
      return first.or others

/-- The items of a set, one after another. -/
def setLiteral : List Node → Except LiteralFault Unit
  | [] => .ok ()
  | item :: rest => do
      match ← item.literal with
      | some kind => .error (.unhashable kind)
      | none => setLiteral rest

/-- The pairs of a dictionary, one after another. -/
def dictionaryLiteral : List Node → Except LiteralFault Unit
  | [] => .ok ()
  | .compound .pair [key, value] :: rest => do
      let kind ← key.literal
      let _ ← value.literal
      match kind with
      | some kind => .error (.unhashable kind)
      | none => dictionaryLiteral rest
  | _ :: _ => .error .noKey

end

end SecurityRules.Parameter
