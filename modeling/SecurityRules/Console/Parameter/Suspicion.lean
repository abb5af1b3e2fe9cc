import SecurityRules.Console.Parameter.Parser

/-!
# What may have been meant in parameters

Where no rule holds, it is guessed what was meant: a comma that is missing
between two expressions, an equals sign that should compare, and so on. These
rules are tried before those that they suspect to be violated.
-/

namespace SecurityRules.Parameter.Suspicion

open SecurityRules.Parameter.Parser

variable (call : Rule → Parser Node)

/-- Words that used to be statements. -/
def formerStatements : List String := ["print", "exec"]

def isFormerStatement : Node → Bool
  | .name w => formerStatements.contains w
  | _ => false

/-- Words that may have a meaning of their own before a name. -/
def markingWords : List String := ["_", "case", "match"]

/-- Whether a word may still grow into one of the marking words. -/
def mayMark (word : String) : Bool :=
  markingWords.any fun w => word.toList.isPrefixOf w.toList

/-- How many brackets are open after the last token that was taken. -/
def depth : Parser Nat := do
  let place := (← progress).position
  return ((← setting).tokens.tokens[place - 1]?.map Token.depth).getD 0

/-- Two expressions side by side in brackets lack a comma. -/
def wrongExpression : Parser Node :=
  suspect [
    do
      notAhead (oneOf [
        do
          let _ ← kind .name
          let _ ← kind .quoted
          return (),
        do
          let _ ← token fun t => t.kind = .name && mayMark t.text
          return ()])
      let first ← call .disjunction
      let _ ← call .plainExpression
      if isFormerStatement first || (← depth) = 0 then return none
      else return some .missingComma,
    do
      let _ ← call .disjunction
      symbol "if"
      let _ ← call .disjunction
      notAhead (symbols ["else", ":"])
      return some .missingElse]

def wrongStatement : Parser Node :=
  suspect [
    do
      let first ← name
      notAhead (symbol "(")
      let _ ← call .starExpressions
      match first with
      | .name w =>
          return if formerStatements.contains w then some (.missingParentheses w) else none
      | _ => return none]

/-- What is assigned no more than once. -/
def assignedOnce : Parser Unit := do
  symbol "="
  let _ ← call (.tier .either)
  notAhead (symbols ["=", ":="])

def wrongNamed : Parser Node :=
  suspect [
    do
      let target ← call .expression
      symbol ":="
      let _ ← call .expression
      return some (.namedOther target.title),
    do
      let _ ← name
      assignedOnce call
      return some .nameAssigned,
    do
      notAhead (oneOf [
        do let _ ← call .tuple; return (),
        do let _ ← call .generator; return (),
        symbols ["True", "None", "False"]])
      let target ← call (.tier .either)
      assignedOnce call
      return some (.assignedHere target.title)]

/-- The arguments without a keyword. -/
def positionalsOf (arguments : Node) : List Node :=
  arguments.parts.filter fun node => !node.hasForm .keyword && !node.hasForm .keywordSpread

def wrongArguments : Parser Node :=
  suspect [
    do
      let _ ← call .argumentList
      symbol ","
      symbol "*"
      return some .starAfterKeywords,
    do
      let _ ← call .expression
      let _ ← call .clauses
      symbol ","
      let _ ← optional (oneOf [
        call .argumentList,
        do
          let _ ← call .expression
          call .clauses])
      return some .bareGenerator,
    do
      let _ ← name
      symbol "="
      let _ ← call .expression
      let _ ← call .clauses
      return some .nameAssigned,
    do
      let arguments ← call .argumentList
      let _ ← call .clauses
      return if 1 < (positionalsOf arguments).length then some .bareGenerator else none,
    do
      let _ ← call .argumentList
      symbol ","
      let _ ← call .expression
      let _ ← call .clauses
      return some .bareGenerator,
    do
      let arguments ← call .argumentList
      symbol ","
      let _ ← call .argumentList
      if arguments.parts.any (Node.hasForm .keywordSpread) then
        return some .positionalAfterSpread
      else return some .positionalAfterKeyword]

def wrongKeyword : Parser Node :=
  suspect [
    do
      let t ← token fun t => ["True", "False", "None"].any t.isSymbol
      symbol "="
      return some (.assigned t.text),
    do
      let _ ← name
      symbol "="
      let _ ← call .expression
      let _ ← call .clauses
      return some .nameAssigned,
    do
      notAhead do
        let _ ← name
        symbol "="
      let _ ← call .expression
      symbol "="
      return some .argumentAssigned]

def wrongComprehension : Parser Node :=
  suspect [
    do
      symbols ["[", "(", "\x7b"]
      let _ ← call .starred
      let _ ← call .clauses
      return some .starredComprehension,
    do
      symbols ["[", "\x7b"]
      let _ ← call .item
      symbol ","
      let _ ← call .items
      let _ ← call .clauses
      return some .bareTarget,
    do
      symbols ["[", "\x7b"]
      let _ ← call .item
      symbol ","
      let _ ← call .clauses
      return some .bareTarget]

def wrongDictionaryComprehension : Parser Node :=
  suspect [
    do
      symbol "\x7b"
      symbol "**"
      let _ ← call (.tier .either)
      let _ ← call .clauses
      symbol "\x7d"
      return some .spreadComprehension]

def wrongGroup : Parser Node :=
  suspect [
    do
      symbol "("
      let _ ← call .starred
      symbol ")"
      return some .starredGroup,
    do
      symbol "("
      symbol "**"
      let _ ← call .expression
      symbol ")"
      return some .doubleStarredGroup]

/-- A loop can only go through what can be assigned. -/
def wrongTarget : Parser Node :=
  suspect [
    do
      let _ ← optional (symbol "async")
      symbol "for"
      let targets ← call .starExpressions
      return targets.wrongTarget?.map fun node => .assigned node.title]

/-- What may be wrong with a value. -/
def wrongValues : List (Parser (Option Fault)) :=
  [do
      let _ ← call .expression
      symbol ":"
      symbol "*"
      let _ ← call (.tier .either)
      return some .starredValue,
    do
      let _ ← call .expression
      symbol ":"
      ahead (symbols ["\x7d", ","])
      return some .missingValue]

def wrongPairs : Parser Node :=
  oneOf [
    do
      let _ ← call .pairList
      symbol ","
      call .wrongPair,
    suspect (wrongValues call)]

def wrongPair : Parser Node :=
  suspect ((do
      let _ ← call .expression
      notAhead (symbol ":")
      return some .missingColon) :: wrongValues call)

/-- Parameters up to a slash. -/
def upToSlash : Parser Node :=
  oneOf [call .slashPlain, call .slashDefault]

def wrongParameters : Parser Node :=
  let found (fault : LambdaFault) : Parser (Option Fault) := return some (.lambda fault)
  suspect [
    do
      let _ ← many (call .plainParameter)
      let _ ← call .wrongDefaults
      let _ ← call .plainParameter
      found .defaultOrder,
    do
      let _ ← many (call .plainParameter)
      symbol "("
      let _ ← separated name
      let _ ← optional (symbol ",")
      symbol ")"
      found .parentheses,
    do
      symbol "/"
      symbol ","
      found .slashFirst,
    do
      let _ ← upToSlash call
      let _ ← many (call .anyParameter)
      symbol "/"
      found .slashTwice,
    do
      let _ ← optional (upToSlash call)
      let _ ← many (call .anyParameter)
      symbol "*"
      let _ ← oneOf [symbol ",", do let _ ← call .plainParameter]
      let _ ← many (call .anyParameter)
      symbol "/"
      found .slashAfterStar,
    do
      let _ ← oneOrMore (call .anyParameter)
      symbol "/"
      symbol "*"
      found .slashBeforeStar]

/-- Parameters the last of which has a default. -/
def wrongDefaults : Parser Node :=
  oneOf [
    call .slashDefault,
    do
      let _ ← oneOrMore (call .defaultParameter)
      return .compound .list []]

def wrongStar : Parser Node :=
  let found (fault : LambdaFault) : Parser (Option Fault) := return some (.lambda fault)
  let plainOrComma : Parser Unit :=
    oneOf [do let _ ← call .plainParameter, symbol ","]
  suspect [
    do
      symbol "*"
      oneOf [
        symbol ":",
        do
          symbol ","
          symbols [":", "**"]]
      found .bareStar,
    do
      symbol "*"
      let _ ← name
      symbol "="
      found .starDefault,
    do
      symbol "*"
      plainOrComma
      let _ ← many (call .anyParameter)
      symbol "*"
      plainOrComma
      found .starTwice]

def wrongSpread : Parser Node :=
  let found (fault : LambdaFault) : Parser (Option Fault) := return some (.lambda fault)
  suspect [
    do
      symbol "**"
      let _ ← name
      symbol "="
      found .spreadDefault,
    do
      symbol "**"
      let _ ← name
      symbol ","
      let _ ← name
      found .afterSpread,
    do
      symbol "**"
      let _ ← name
      symbol ","
      symbols ["*", "**", "/"]
      found .afterSpread]

def wrongDefault : Parser Node :=
  suspect [
    do
      symbol "="
      ahead (symbols [")", ","])
      return some (.lambda .noDefault)]

end SecurityRules.Parameter.Suspicion
