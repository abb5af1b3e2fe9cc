import SecurityRules.Console.Parameter.Node

/-!
# Rules of the grammar of parameters

What an expression can be made of, each kind with a rule of its own. Rules at
the end of the list never hold: they are there to find out what was meant where
no other rule holds.
-/

namespace SecurityRules.Parameter

/-- The operators with two operands, from the loosest to the tightest. -/
inductive Tier where
  | either
  | exclusive
  | both
  | shift
  | sum
  | term
  deriving DecidableEq, Repr, Ord

inductive Rule where
  /-- Everything. -/
  | whole
  | expressions
  | expression
  /-- An expression that is not searched for faults. -/
  | plainExpression
  | yielded
  /-- Expressions with commas between them, some of them starred. -/
  | starExpressions
  | starExpression
  | items
  | item
  | itemList
  | assignment
  | named
  | disjunction
  | conjunction
  | inversion
  | comparison
  | comparisonTail
  | comparisonOperand
  | tier (t : Tier)
  | tierStep (t : Tier)
  | factor
  | power
  | awaited
  | primary
  | primaryStep
  | atom
  | quotations
  | parentheses
  | tuple
  | tupleItems
  | group
  | groupContent
  | generator
  | element
  | braces
  | dictionary
  | set
  | dictionaryComprehension
  | setComprehension
  | pairs
  | pairList
  | pair
  | keyValue
  | clauses
  | clause
  | targets
  | target
  | plainTarget
  | targetAtom
  | targetTuple
  | targetPrimary
  | targetStep
  | arguments
  | argumentList
  | positionals
  | positional
  | keywords
  | keywordsOrStarred
  | keywordsOrSpread
  | keywordOrStarred
  | keywordOrSpread
  | starred
  | lambda
  | lambdaParameters
  | parameters
  | slashPlain
  | slashDefault
  | starParameters
  | spreadParameter
  | plainParameter
  | defaultParameter
  | anyParameter
  | default
  /-- Two expressions side by side, or a condition without an alternative. -/
  | wrongExpression
  | wrongStatement
  | wrongNamed
  | wrongArguments
  | wrongKeyword
  | wrongComprehension
  | wrongDictionaryComprehension
  | wrongGroup
  | wrongTarget
  | wrongPairs
  | wrongPair
  | wrongParameters
  | wrongDefaults
  | wrongStar
  | wrongSpread
  | wrongDefault
  deriving DecidableEq, Repr, Ord

/-- Whether what a rule makes of a place is remembered. -/
def Rule.isRemembered : Rule → Bool
  | expression | starExpression | disjunction | conjunction | inversion | tier _ | factor
  | awaited | primary | quotations | arguments | target | plainTarget | targetPrimary
  | wrongNamed => true
  | _ => false

end SecurityRules.Parameter
