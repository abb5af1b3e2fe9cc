import SecurityRules.Console.Parameter.Parser

/-!
# Operations in parameters

Expressions from the loosest operator to the tightest: conditions, junctions,
comparisons, arithmetic, and what is called or asked for a member.
-/

namespace SecurityRules.Parameter.Operation

open SecurityRules.Parameter.Parser

variable (call : Rule → Parser Node)

/-- What follows commas after a first part. -/
def more (part : Rule) : Parser (List Node) :=
  oneOrMore do symbol ","; call part

/-- Parts with commas between them make a tuple. A comma may end them, and has
to if there is only one. -/
def commaSeparated (part : Rule) : Parser Node :=
  oneOf [
    do
      let first ← call part
      let rest ← more call part
      let _ ← optional (symbol ",")
      return .compound .tuple (first :: rest),
    do
      let first ← call part
      symbol ","
      return .compound .tuple [first],
    call part]

/-- Everything up to the end. -/
def whole : Parser Node := do
  let node ← call .expressions
  let _ ← many (kind .lineEnd)
  let _ ← kind .stop
  return node

/-- An expression with a condition and an alternative. -/
def conditional : Parser Node := do
  let yes ← call .disjunction
  symbol "if"
  let condition ← call .disjunction
  symbol "else"
  let no ← call .expression
  return .compound .conditional [condition, yes, no]

def expression : Parser Node :=
  oneOf [
    ifWary (call .wrongExpression),
    ifWary (call .wrongStatement),
    conditional call,
    call .disjunction,
    call .lambda]

def plainExpression : Parser Node :=
  unwary (oneOf [conditional call, call .disjunction, call .lambda])

def yielded : Parser Node :=
  oneOf [
    do
      symbol "yield"
      symbol "from"
      return .compound .yielded [← call .expression],
    do
      symbol "yield"
      let node ← optional (call .starExpressions)
      return .compound .yielded node.toList]

/-- A starred operand. -/
def starredOperand : Parser Node := do
  symbol "*"
  return .compound .starred [← call (.tier .either)]

def starExpression : Parser Node :=
  oneOf [starredOperand call, call .expression]

def item : Parser Node :=
  oneOf [starredOperand call, call .named]

def items : Parser Node := do
  let node ← call .itemList
  let _ ← optional (symbol ",")
  return node

def itemList : Parser Node := do
  return .compound .list (← separated (call .item))

/-- A name that is assigned a value within an expression. -/
def assignment : Parser Node := do
  let node ← name
  symbol ":="
  return .compound .assignment [node, ← call .expression]

def named : Parser Node :=
  oneOf [
    call .assignment,
    ifWary (call .wrongNamed),
    do
      let node ← call .expression
      notAhead (symbol ":=")
      return node]

/-- Operands with the same word between them. -/
def junction (operand : Rule) (w : String) : Parser Node :=
  oneOf [
    do
      let first ← call operand
      let rest ← oneOrMore do symbol w; call operand
      return .compound .junction (first :: rest),
    call operand]

def inversion : Parser Node :=
  oneOf [
    do
      symbol "not"
      return .compound .inversion [← call .inversion],
    call .comparison]

/-- What an operand is compared with. -/
def comparisonOperand : Parser Node :=
  let compared (ws : List String) (form : Form) : Parser Node := do
    ws.forM symbol
    return .compound form [← call (.tier .either)]
  oneOf [
    compared ["=="] .comparison,
    compared ["!="] .comparison,
    compared ["<="] .comparison,
    compared ["<"] .comparison,
    compared [">="] .comparison,
    compared [">"] .comparison,
    compared ["not", "in"] .comparison,
    compared ["in"] .membership,
    compared ["is", "not"] .comparison,
    compared ["is"] .comparison]

/-- A comparison is a test for membership if its first operator is. -/
def comparison : Parser Node :=
  oneOf [
    do
      let first ← call (.tier .either)
      let rest ← oneOrMore (call .comparisonTail)
      let form := if rest.head?.any (Node.hasForm .membership) then .membership else .comparison
      return .compound form (first :: rest.flatMap Node.parts),
    call (.tier .either)]

/-- The operands of a tier. -/
def operandOf : Tier → Rule
  | .either => .tier .exclusive
  | .exclusive => .tier .both
  | .both => .tier .shift
  | .shift => .tier .sum
  | .sum => .tier .term
  | .term => .factor

/-- The operators of a tier. -/
def operatorsOf : Tier → List (String × Form)
  | .either => [("|", .arithmetic)]
  | .exclusive => [("^", .arithmetic)]
  | .both => [("&", .arithmetic)]
  | .shift => [("<<", .arithmetic), (">>", .arithmetic)]
  | .sum => [("+", .sum), ("-", .difference)]
  | .term =>
      [("*", .arithmetic), ("/", .arithmetic), ("//", .arithmetic), ("%", .arithmetic),
       ("@", .arithmetic)]

def tierStep (t : Tier) : Parser Node :=
  oneOf ((operatorsOf t).map (fun (w, form) => do
      let left ← call (.tier t)
      symbol w
      return .compound form [left, ← call (operandOf t)])
    ++ [call (operandOf t)])

def factor : Parser Node :=
  let signed (w : String) (form : Form) : Parser Node := do
    symbol w
    return .compound form [← call .factor]
  oneOf [signed "+" .plus, signed "-" .minus, signed "~" .inversion, call .power]

def power : Parser Node :=
  oneOf [
    do
      let base ← call .awaited
      symbol "**"
      return .compound .arithmetic [base, ← call .factor],
    call .awaited]

def awaited : Parser Node :=
  oneOf [
    do
      symbol "await"
      return .compound .awaited [← call .primary],
    call .primary]

/-- A member of what stands before a point. -/
def member (owner : Rule) : Parser Node := do
  let node ← call owner
  symbol "."
  let _ ← name
  return .compound .member [node]

/-- A call with a generator as its only argument. -/
def generatorCall (function : Rule) : Parser Node := do
  let node ← call function
  return .compound .call [node, ← call .generator]

/-- A call with arguments in parentheses. -/
def argumentsCall (function : Rule) : Parser Node := do
  let node ← call function
  symbol "("
  let arguments ← optional (call .arguments)
  symbol ")"
  return .compound .call (node :: (arguments.map Node.parts).getD [])

def primaryStep : Parser Node :=
  oneOf [
    member call .primary,
    generatorCall call .primary,
    argumentsCall call .primary,
    call .atom]

/-- What follows an operand that is not yet all there is. -/
def goesOn : Parser Unit :=
  symbols ["(", "[", "."]

/-- The part of a target before its last point. -/
def targetStep : Parser Node :=
  oneOf ([
      member call .targetPrimary,
      generatorCall call .targetPrimary,
      argumentsCall call .targetPrimary,
      call .atom].map fun operand => do
    let node ← operand
    ahead goesOn
    return node)

end SecurityRules.Parameter.Operation
