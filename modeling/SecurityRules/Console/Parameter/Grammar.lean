import SecurityRules.Console.Parameter.Arguments
import SecurityRules.Console.Parameter.Container
import SecurityRules.Console.Parameter.Operation
import SecurityRules.Console.Parameter.Suspicion
import SecurityRules.Console.Parameter.TokenList

/-!
# The grammar of parameters

Tokens are read twice. The first time only the grammar counts. If they do not
follow it, they are read again in search of what was meant. A fault of a token
further on is more telling than what was guessed, and goes first.
-/

namespace SecurityRules.Parameter

open SecurityRules.Parameter.Parser

/-- What a rule says, given what the others say. -/
def Rule.body (call : Rule → Parser Node) : Rule → Parser Node
  | whole => Operation.whole call
  | expressions => Operation.commaSeparated call .expression
  | expression => Operation.expression call
  | plainExpression => Operation.plainExpression call
  | yielded => Operation.yielded call
  | starExpressions => Operation.commaSeparated call .starExpression
  | starExpression => Operation.starExpression call
  | items => Operation.items call
  | item => Operation.item call
  | itemList => Operation.itemList call
  | assignment => Operation.assignment call
  | named => Operation.named call
  | disjunction => Operation.junction call .conjunction "or"
  | conjunction => Operation.junction call .inversion "and"
  | inversion => Operation.inversion call
  | comparison => Operation.comparison call
  | comparisonTail => call .comparisonOperand
  | comparisonOperand => Operation.comparisonOperand call
  | tier t => grow (.tier t) (call (.tierStep t))
  | tierStep t => Operation.tierStep call t
  | factor => Operation.factor call
  | power => Operation.power call
  | awaited => Operation.awaited call
  | primary => grow .primary (call .primaryStep)
  | primaryStep => Operation.primaryStep call
  | atom => Container.atom call
  | quotations => Container.quotations
  | parentheses => Container.parentheses call
  | tuple => Container.tuple call
  | tupleItems => Container.tupleItems call
  | group => Container.group call
  | groupContent => Container.groupContent call
  | generator => Container.generator call
  | element => Container.element call
  | braces => Container.braces call
  | dictionary => Container.dictionary call
  | set => Container.set call
  | dictionaryComprehension => Container.dictionaryComprehension call
  | setComprehension => Container.setComprehension call
  | pairs => Container.pairs call
  | pairList => Container.pairList call
  | pair => Container.pair call
  | keyValue => Container.keyValue call
  | clauses => Container.clauses call
  | clause => Container.clause call
  | targets => Container.targets call
  | target => Container.target call
  | plainTarget => Container.plainTarget call
  | targetAtom => Container.targetAtom call
  | targetTuple => Container.targetTuple call
  | targetPrimary => grow .targetPrimary (call .targetStep)
  | targetStep => Operation.targetStep call
  | arguments => Arguments.arguments call
  | argumentList => Arguments.argumentList call
  | positionals => Arguments.positionals call
  | positional => Arguments.positional call
  | keywords => Arguments.keywords call
  | keywordsOrStarred => Arguments.keywordsOrStarred call
  | keywordsOrSpread => Arguments.keywordsOrSpread call
  | keywordOrStarred => Arguments.keywordOrStarred call
  | keywordOrSpread => Arguments.keywordOrSpread call
  | starred => Arguments.starred call
  | lambda => Arguments.lambda call
  | lambdaParameters => Arguments.lambdaParameters call
  | parameters => Arguments.parameters call
  | slashPlain => Arguments.slashPlain call
  | slashDefault => Arguments.slashDefault call
  | starParameters => Arguments.starParameters call
  | spreadParameter => Arguments.spreadParameter call
  | plainParameter => Arguments.plainParameter
  | defaultParameter => Arguments.defaultParameter call
  | anyParameter => Arguments.anyParameter call
  | default => Arguments.default call
  | wrongExpression => Suspicion.wrongExpression call
  | wrongStatement => Suspicion.wrongStatement call
  | wrongNamed => Suspicion.wrongNamed call
  | wrongArguments => Suspicion.wrongArguments call
  | wrongKeyword => Suspicion.wrongKeyword call
  | wrongComprehension => Suspicion.wrongComprehension call
  | wrongDictionaryComprehension => Suspicion.wrongDictionaryComprehension call
  | wrongGroup => Suspicion.wrongGroup call
  | wrongTarget => Suspicion.wrongTarget call
  | wrongPairs => Suspicion.wrongPairs call
  | wrongPair => Suspicion.wrongPair call
  | wrongParameters => Suspicion.wrongParameters call
  | wrongDefaults => Suspicion.wrongDefaults call
  | wrongStar => Suspicion.wrongStar call
  | wrongSpread => Suspicion.wrongSpread
  | wrongDefault => Suspicion.wrongDefault

/-- The parser of a rule, with a limit on how many rules may be tried one within
another. -/
def Rule.parser : (levels : Nat) → Rule → Parser Node
  | 0, _ => refuse .exhausted
  | levels + 1, rule =>
      let parser := rule.body (Rule.parser levels)
      if rule.isRemembered then remembered rule parser else parser

/-- How many rules may be tried one within another. -/
def maxLevels : Nat := 6000

/-- Whether the end of the text was seen when the last token was read. It was
not if the token is known to end where it does. Two quotes could have been three. -/
def Tokens.endIsSeen (tokens : Tokens) : Bool :=
  tokens.tokens.back?.any fun t => t.isLast &&
    match t.kind with
    | .quoted =>
        let quotation := Quotation.ofText t.text
        quotation.content.isEmpty && quotation.opening.countP isQuote = 1
    | .symbol => t.text.length < 3 || reservedWords.contains t.text
    | _ => true

/-- The fault to report where one was found or guessed. What was guessed gives
way to a bad token further on, and to a bracket that is left open on an earlier
line. -/
def Tokens.report (tokens : Tokens) (isGuess : Bool) (refusal : Refusal) : Fault :=
  match refusal.fault with
  | .token _ | .layout _ | .exhausted => refusal.fault
  | fault =>
      match tokens.ending with
      | .complete => fault
      | .badToken bad => .token bad
      | .badLayout _ =>
          let line := (tokens.tokens[refusal.reach - 1]?.map Token.line).getD 1
          let isSeen := refusal.reach = tokens.tokens.size && tokens.endIsSeen
          match tokens.opened with
          | some bracket =>
              if bracket.line < line && (isGuess || !isSeen) then
                .layout (.openBracket bracket.opening)
              else fault
          | none => fault

/-- Reads tokens by a rule. -/
def Tokens.read (rule : Rule) (template : List Char → Nat → Except Fault Unit)
    (tokens : Tokens) : Except Fault Node :=
  let parser := rule.parser maxLevels
  match parser { tokens, template } { isWary := false } with
  | .error refusal => .error (tokens.report false refusal)
  | .ok (some node, _) => .ok node
  | .ok (none, first) =>
      match parser { tokens, template } { reach := first.reach, isWary := true } with
      | .error refusal => .error (tokens.report false refusal)
      | .ok (_, second) =>
          match tokens.tokens[first.reach - 1]?.map Token.kind with
          | some .indent => .error .unexpectedIndent
          | some .dedent => .error .unexpectedDedent
          | _ => .error (tokens.report true ⟨.unexpected, second.reach⟩)

/-- The fault of an expression in a template. -/
def Fault.fromTemplate : Fault → Fault
  | .inTemplate fault => .inTemplate fault
  | .exhausted => .exhausted
  | fault => .inTemplate fault

/-- Reads an expression in a template, with a limit on how many templates may
stand one in another. -/
def readExpression : (templates : Nat) → List Char → Nat → Except Fault Unit
  | 0, _, _ => .error .exhausted
  | templates + 1, cs, line =>
      let tokens := Tokens.ofText line ('(' :: cs ++ [')', '\n'])
      match tokens.read .starExpressions (readExpression templates) with
      | .ok _ => .ok ()
      | .error fault => .error fault.fromTemplate

/-- Reads an expression. A template in it is shorter than the whole, so there
are fewer of them one in another than characters. -/
def Node.ofText (cs : List Char) : Except Fault Node :=
  (Tokens.ofText 1 cs).read .whole (readExpression cs.length)

end SecurityRules.Parameter
