import SecurityRules.Console.Parameter.Parser

/-!
# Arguments and nameless functions in parameters

The arguments of a call, positional ones before those with a keyword, and the
parameters of a nameless function.
-/

namespace SecurityRules.Parameter.Arguments

open SecurityRules.Parameter.Parser

variable (call : Rule → Parser Node)

def arguments : Parser Node :=
  oneOf [
    do
      let node ← call .argumentList
      let _ ← optional (symbol ",")
      ahead (symbol ")")
      return node,
    ifWary (call .wrongArguments)]

def argumentList : Parser Node :=
  oneOf [
    do
      let first ← call .positionals
      let rest ← optional do symbol ","; call .keywords
      return .compound .list (first.parts ++ (rest.map Node.parts).getD []),
    call .keywords]

def positionals : Parser Node := do
  return .compound .list (← separated (call .positional))

def positional : Parser Node :=
  oneOf [
    call .starred,
    do
      let node ← call .element
      notAhead (symbol "=")
      return node]

def starred : Parser Node := do
  symbol "*"
  return .compound .starred [← call .expression]

def keywords : Parser Node :=
  oneOf [
    do
      let first ← call .keywordsOrStarred
      symbol ","
      let rest ← call .keywordsOrSpread
      return .compound .list (first.parts ++ rest.parts),
    call .keywordsOrStarred,
    call .keywordsOrSpread]

def keywordsOrStarred : Parser Node := do
  return .compound .list (← separated (call .keywordOrStarred))

def keywordsOrSpread : Parser Node := do
  return .compound .list (← separated (call .keywordOrSpread))

/-- An argument with a keyword. -/
def keyword : Parser Node := do
  let _ ← name
  symbol "="
  return .compound .keyword [← call .expression]

def keywordOrStarred : Parser Node :=
  oneOf [ifWary (call .wrongKeyword), keyword call, call .starred]

def keywordOrSpread : Parser Node :=
  oneOf [
    ifWary (call .wrongKeyword),
    keyword call,
    do
      symbol "**"
      return .compound .keywordSpread [← call .expression]]

/-- What stands for parts that do not matter. -/
def nothing : Node := .compound .list []

def lambda : Parser Node := do
  symbol "lambda"
  let _ ← optional (call .lambdaParameters)
  symbol ":"
  return .compound .lambda [← call .expression]

def lambdaParameters : Parser Node :=
  oneOf [ifWary (call .wrongParameters), call .parameters]

def parameters : Parser Node :=
  oneOf [
    do
      let _ ← call .slashPlain
      let _ ← many (call .plainParameter)
      let _ ← many (call .defaultParameter)
      let _ ← optional (call .starParameters)
      return nothing,
    do
      let _ ← call .slashDefault
      let _ ← many (call .defaultParameter)
      let _ ← optional (call .starParameters)
      return nothing,
    do
      let _ ← oneOrMore (call .plainParameter)
      let _ ← many (call .defaultParameter)
      let _ ← optional (call .starParameters)
      return nothing,
    do
      let _ ← oneOrMore (call .defaultParameter)
      let _ ← optional (call .starParameters)
      return nothing,
    call .starParameters]

/-- A parameter list goes on with a comma or ends before a colon. -/
def separatorOrEnd (part : Parser Unit) : Parser Node :=
  oneOf [
    do
      part
      symbol ","
      return nothing,
    do
      part
      ahead (symbol ":")
      return nothing]

def slashPlain : Parser Node :=
  separatorOrEnd do
    let _ ← oneOrMore (call .plainParameter)
    symbol "/"

def slashDefault : Parser Node :=
  separatorOrEnd do
    let _ ← many (call .plainParameter)
    let _ ← oneOrMore (call .defaultParameter)
    symbol "/"

def starParameters : Parser Node :=
  oneOf [
    ifWary (call .wrongStar),
    do
      symbol "*"
      let _ ← call .plainParameter
      let _ ← many (call .anyParameter)
      let _ ← optional (call .spreadParameter)
      return nothing,
    do
      symbol "*"
      symbol ","
      let _ ← oneOrMore (call .anyParameter)
      let _ ← optional (call .spreadParameter)
      return nothing,
    call .spreadParameter]

def spreadParameter : Parser Node :=
  oneOf [
    ifWary (call .wrongSpread),
    do
      symbol "**"
      call .plainParameter]

def plainParameter : Parser Node :=
  separatorOrEnd do
    let _ ← name

def defaultParameter : Parser Node :=
  separatorOrEnd do
    let _ ← name
    let _ ← call .default

def anyParameter : Parser Node :=
  separatorOrEnd do
    let _ ← name
    let _ ← optional (call .default)

def default : Parser Node :=
  oneOf [
    do
      symbol "="
      call .expression,
    ifWary (call .wrongDefault)]

end SecurityRules.Parameter.Arguments
