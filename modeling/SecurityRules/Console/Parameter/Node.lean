import SecurityRules.Console.Parameter.Number

/-!
# Expressions in parameters

Parameters are read as an expression first, whether or not it is a literal. It
is kept as far as it matters for that, and for saying what stands where a value
is assigned.
-/

namespace SecurityRules.Parameter

/-- A value that is written out. -/
inductive Constant where
  | nothing
  | yes
  | no
  | ellipsis
  | text
  | bytes
  | number (n : Number)
  deriving DecidableEq, Repr

/-- How parts make up an expression. -/
inductive Form where
  | member
  | call
  | tuple
  | set
  | dictionary
  | starred
  | plus
  | minus
  | inversion
  | sum
  | difference
  | arithmetic
  | junction
  | membership
  | comparison
  | conditional
  | assignment
  | lambda
  | generator
  | setComprehension
  | dictionaryComprehension
  | yielded
  | awaited
  | template
  /-- Parts that are no expression on their own. -/
  | pair
  | spread
  | keyword
  | keywordSpread
  | list
  deriving DecidableEq, Repr

/-- An expression, or a part of one. -/
inductive Node where
  | name (w : String)
  | constant (c : Constant)
  | compound (form : Form) (parts : List Node)
  deriving Repr

def Constant.title : Constant → String
  | nothing => "None"
  | yes => "True"
  | no => "False"
  | ellipsis => "ellipsis"
  | text | bytes | number _ => "literal"

def Form.title : Form → String
  | member => "attribute"
  | call => "function call"
  | tuple => "tuple"
  | set => "set display"
  | dictionary => "dict literal"
  | starred => "starred"
  | plus | minus | inversion | sum | difference | arithmetic | junction => "expression"
  | membership | comparison => "comparison"
  | conditional => "conditional expression"
  | assignment => "named expression"
  | lambda => "lambda"
  | generator => "generator expression"
  | setComprehension => "set comprehension"
  | dictionaryComprehension => "dict comprehension"
  | yielded => "yield expression"
  | awaited => "await expression"
  | template => "f-string expression"
  | pair | spread | keyword | keywordSpread | list => ""

namespace Node

/-- What an expression is called where it is the target of an assignment. -/
def title : Node → String
  | name _ => "name"
  | constant c => c.title
  | compound form _ => form.title

/-- The parts of a compound. -/
def parts : Node → List Node
  | compound _ parts => parts
  | _ => []

/-- Whether a node has a given form. -/
def hasForm (form : Form) : Node → Bool
  | compound f _ => f = form
  | _ => false

/-- How many nodes stand one in another. -/
def height : Node → Nat
  | name _ | constant _ => 1
  | compound _ parts => 1 + heights parts
where
  /-- The greatest height among nodes. -/
  heights : List Node → Nat
    | [] => 0
    | node :: rest => max node.height (heights rest)

/-- The first part of an expression that cannot be assigned a value by a loop.
Names and attributes can, and so can tuples and starred expressions of them. In
`x in y` only the left side is assigned. -/
def wrongTarget? : Node → Option Node
  | name _ => none
  | constant c => some (constant c)
  | compound form parts =>
      match form, parts with
      | .member, _ => none
      | .tuple, parts => wrongTargets? parts
      | .starred, parts => wrongTargets? parts
      | .membership, left :: _ => wrongTarget? left
      | .comparison, _ => none
      | form, parts => some (compound form parts)
where
  /-- The first such part of several expressions. -/
  wrongTargets? : List Node → Option Node
    | [] => none
    | node :: rest => (wrongTarget? node).or (wrongTargets? rest)

end Node

end SecurityRules.Parameter
