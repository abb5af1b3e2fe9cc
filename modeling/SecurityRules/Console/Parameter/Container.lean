import SecurityRules.Console.Parameter.Operation
import SecurityRules.Console.Parameter.Template

/-!
# Containers and constants in parameters

What stands between brackets: groups, tuples, sets, dictionaries, and what is
made by a loop. Square brackets never occur, because they end a tag.
-/

namespace SecurityRules.Parameter.Container

open SecurityRules.Parameter.Parser

variable (call : Rule → Parser Node)

/-- A number. -/
def number : Parser Node := do
  let t ← kind .number
  match Number.ofText t.text with
  | .ok n => return .constant (.number n)
  | .error digits => refuse (.tooManyDigits digits)

/-- A reserved word or sign that stands for a value. -/
def constant (w : String) (c : Constant) : Parser Node := do
  symbol w
  return .constant c

/-- Quoted texts side by side make one. -/
def quotations : Parser Node := do
  let quoted := (← oneOrMore (kind .quoted)).map fun t => (Quotation.ofText t.text, t.line)
  match quotedTogether (← setting).template quoted with
  | .ok node => return node
  | .error fault => refuse fault

def atom : Parser Node :=
  oneOf [
    name,
    constant "True" .yes,
    constant "False" .no,
    constant "None" .nothing,
    do ahead (kind .quoted); call .quotations,
    number,
    do ahead (symbol "("); call .parentheses,
    do ahead (symbol "\x7b"); call .braces,
    constant "..." .ellipsis]

def parentheses : Parser Node :=
  oneOf [call .tuple, call .group, call .generator]

def tuple : Parser Node := do
  symbol "("
  let items ← optional (call .tupleItems)
  symbol ")"
  return .compound .tuple ((items.map Node.parts).getD [])

/-- The items of a tuple, with a comma after the first. -/
def tupleItems : Parser Node := do
  let first ← call .item
  symbol ","
  let rest ← optional (call .items)
  return .compound .list (first :: (rest.map Node.parts).getD [])

def group : Parser Node :=
  oneOf [
    do
      symbol "("
      let node ← call .groupContent
      symbol ")"
      return node,
    ifWary (call .wrongGroup)]

def groupContent : Parser Node :=
  oneOf [call .yielded, call .named]

def generator : Parser Node :=
  oneOf [
    do
      symbol "("
      let element ← call .element
      let clauses ← call .clauses
      symbol ")"
      return .compound .generator [element, clauses],
    ifWary (call .wrongComprehension)]

/-- An element of a generator, or an argument that is not starred. -/
def element : Parser Node :=
  oneOf [
    call .assignment,
    do
      let node ← call .expression
      notAhead (symbol ":=")
      return node]

def braces : Parser Node :=
  oneOf [
    call .dictionary,
    call .set,
    call .dictionaryComprehension,
    call .setComprehension]

/-- Wrong pairs are searched for at once, even if other faults are not. -/
def dictionary : Parser Node :=
  oneOf [
    do
      symbol "\x7b"
      let pairs ← optional (call .pairs)
      symbol "\x7d"
      return .compound .dictionary ((pairs.map Node.parts).getD []),
    do
      symbol "\x7b"
      call .wrongPairs]

def pairs : Parser Node := do
  let node ← call .pairList
  let _ ← optional (symbol ",")
  return node

def pairList : Parser Node := do
  return .compound .list (← separated (call .pair))

def pair : Parser Node :=
  oneOf [
    do
      symbol "**"
      return .compound .spread [← call (.tier .either)],
    call .keyValue]

def keyValue : Parser Node := do
  let key ← call .expression
  symbol ":"
  return .compound .pair [key, ← call .expression]

def set : Parser Node := do
  symbol "\x7b"
  let items ← call .items
  symbol "\x7d"
  return .compound .set items.parts

def dictionaryComprehension : Parser Node :=
  oneOf [
    do
      symbol "\x7b"
      let pair ← call .keyValue
      let clauses ← call .clauses
      symbol "\x7d"
      return .compound .dictionaryComprehension [pair, clauses],
    ifWary (call .wrongDictionaryComprehension)]

def setComprehension : Parser Node :=
  oneOf [
    do
      symbol "\x7b"
      let element ← call .named
      let clauses ← call .clauses
      symbol "\x7d"
      return .compound .setComprehension [element, clauses],
    ifWary (call .wrongComprehension)]

def clauses : Parser Node := do
  return .compound .list (← oneOrMore (call .clause))

/-- A loop up to the word before what it goes through. -/
def loop : Parser Node := do
  symbol "for"
  let targets ← call .targets
  symbol "in"
  return targets

/-- A loop with conditions. Once the word before what it goes through has been
read, nothing else is tried. -/
def clause : Parser Node := do
  match ← optional (oneOf [do symbol "async"; loop call, loop call]) with
  | none => ifWary (call .wrongTarget)
  | some targets =>
      let source ← call .disjunction
      let conditions ← many do symbol "if"; call .disjunction
      return .compound .list (targets :: source :: conditions)

/-- The targets of a loop. -/
def targets : Parser Node :=
  oneOf [
    do
      let node ← call .target
      notAhead (symbol ",")
      return node,
    do
      let first ← call .target
      let rest ← many do symbol ","; call .target
      let _ ← optional (symbol ",")
      return .compound .tuple (first :: rest)]

def target : Parser Node :=
  oneOf [
    do
      symbol "*"
      notAhead (symbol "*")
      return .compound .starred [← call .target],
    call .plainTarget]

def plainTarget : Parser Node :=
  oneOf [
    do
      let node ← call .targetPrimary
      symbol "."
      let _ ← name
      notAhead Operation.goesOn
      return .compound .member [node],
    call .targetAtom]

def targetAtom : Parser Node :=
  oneOf [
    name,
    do
      symbol "("
      let node ← call .plainTarget
      symbol ")"
      return node,
    do
      symbol "("
      let node ← optional (call .targetTuple)
      symbol ")"
      return node.getD (.compound .tuple [])]

def targetTuple : Parser Node :=
  oneOf [
    do
      let first ← call .target
      let rest ← oneOrMore do symbol ","; call .target
      let _ ← optional (symbol ",")
      return .compound .tuple (first :: rest),
    do
      let node ← call .target
      symbol ","
      return .compound .tuple [node]]

end SecurityRules.Parameter.Container
