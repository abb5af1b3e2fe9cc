import SecurityRules.Decimal.Shortest
import SecurityRules.Json.Basic
import SecurityRules.Text.Quoted

/-!
# Values in messages and clauses

Messages show a value as a literal: texts in quotes, `True`, `False` and `None`
for the three words, and containers in brackets. Inside a clause a text stands
as it is, and any other value as its literal.
-/

namespace SecurityRules.Json

/-- The words for the numbers that have no digits. -/
def literalFloatWords : FloatWords :=
  { nan := "nan", infinity := "inf" }

mutual

/-- A value as a literal. -/
def literal : Json → Text
  | .null => "None"
  | .bool true => "True"
  | .bool false => "False"
  | .int n => Text.ofInt n
  | .float x => x.text literalFloatWords
  | .string s => s.quoted
  | .array items => [.scalar '['] ++ Text.join ", " (literalItems items) ++ [.scalar ']']
  | .object entries =>
      [.scalar '\x7b'] ++ Text.join ", " (literalEntries entries) ++ [.scalar '\x7d']

def literalItems : List Json → List Text
  | [] => []
  | item :: items => literal item :: literalItems items

def literalEntries : List (Text × Json) → List Text
  | [] => []
  | (key, value) :: entries =>
      (key.quoted ++ ": " ++ literal value) :: literalEntries entries

end

/-- A value as it stands in a clause. -/
def display : Json → Text
  | .string s => s
  | v => v.literal

end SecurityRules.Json
