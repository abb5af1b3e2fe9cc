import SecurityRules.Console.Parameter.Fault
import SecurityRules.Console.Parameter.Quotation
import SecurityRules.Console.Parameter.Rule
import SecurityRules.Text.PlainLetter
import Std.Data.TreeMap

/-!
# Parsers of parameters

A parser holds at a place among the tokens or it does not, and if it holds it
says what stands there and where that ends. It may also find a fault, which
ends everything. Of several alternatives the first that holds is taken.

What some rules make of a place is remembered, and not worked out again. What
is remembered may stem from a time when faults were not searched for, and then
they are not found later either.
-/

namespace SecurityRules.Parameter

/-- What a parser has to know. -/
structure Setting where
  tokens : Tokens
  /-- Reads an expression in a template that starts on a given line. -/
  template : List Char → Nat → Except Fault Unit

/-- A rule that is tried at a place. -/
structure Trial where
  place : Nat
  rule : Rule
  deriving DecidableEq, Repr, Ord

/-- How far a parser has got. -/
structure Progress where
  position : Nat := 0
  /-- How many tokens have been looked at. -/
  reach : Nat := 0
  /-- Whether faults are searched for. -/
  isWary : Bool
  /-- What rules have made of places: what stands there, and where that ends. -/
  memory : Std.TreeMap Trial (Option Node × Nat) := {}

/-- A fault, and how many tokens had been looked at when it was found. -/
structure Refusal where
  fault : Fault
  reach : Nat

/-- A parser for something. -/
def Parser (α : Type) : Type :=
  Setting → Progress → Except Refusal (Option α × Progress)

namespace Parser

variable {α β : Type}

instance : Monad Parser where
  pure a := fun _ p => .ok (some a, p)
  bind a f := fun s p =>
    match a s p with
    | .error refusal => .error refusal
    | .ok (none, p) => .ok (none, p)
    | .ok (some x, p) => f x s p

/-- Never holds. -/
def fail : Parser α := fun _ p => .ok (none, p)

def refuse (fault : Fault) : Parser α := fun _ p => .error ⟨fault, p.reach⟩

def setting : Parser Setting := fun s p => .ok (some s, p)

def progress : Parser Progress := fun _ p => .ok (some p, p)

/-- Holds where another parser holds or not, and says which. -/
def optional (a : Parser α) : Parser (Option α) := fun s p =>
  match a s p with
  | .error refusal => .error refusal
  | .ok (none, after) => .ok (some none, { after with position := p.position })
  | .ok (some x, after) => .ok (some (some x), after)

/-- Holds where another parser holds, but takes no token. -/
def ahead (a : Parser α) : Parser Unit := fun s p =>
  match a s p with
  | .error refusal => .error refusal
  | .ok (x, after) => .ok (x.map fun _ => (), { after with position := p.position })

/-- Holds where another parser does not hold. -/
def notAhead (a : Parser α) : Parser Unit := fun s p =>
  match a s p with
  | .error refusal => .error refusal
  | .ok (x, after) =>
      .ok (if x.isSome then none else some (), { after with position := p.position })

/-- The first of several parsers that holds. -/
def oneOf : List (Parser α) → Parser α
  | [] => fail
  | a :: rest => fun s p =>
      match a s p with
      | .error refusal => .error refusal
      | .ok (none, after) => oneOf rest s { after with position := p.position }
      | .ok (some x, after) => .ok (some x, after)

/-- A parser as often as it holds, up to a number of times. -/
def upTo (a : Parser α) : Nat → Parser (List α)
  | 0 => pure []
  | n + 1 => do
      match ← optional a with
      | none => return []
      | some x => return x :: (← upTo a n)

/-- A parser as often as it holds. It has to take a token each time. -/
def many (a : Parser α) : Parser (List α) := do
  upTo a (← setting).tokens.tokens.size

/-- A parser as often as it holds, which has to be once at least. -/
def oneOrMore (a : Parser α) : Parser (List α) := do
  let x ← a
  return x :: (← many a)

/-- A token that meets a condition. -/
def token (condition : Token → Bool) : Parser Token := fun s p =>
  match s.tokens.tokens[p.position]? with
  | some t =>
      let p := { p with reach := max p.reach (p.position + 1) }
      if condition t then .ok (some t, { p with position := p.position + 1 }) else .ok (none, p)
  | none =>
      let fault := match s.tokens.ending with
        | .complete => .unexpected
        | .badToken fault => .token fault
        | .badLayout fault => .layout fault
      .error ⟨fault, p.reach⟩

/-- A given operator, bracket or reserved word. -/
def symbol (w : String) : Parser Unit := do
  let _ ← token (·.isSymbol w)

/-- One of some operators, brackets or reserved words. -/
def symbols (ws : List String) : Parser Unit := do
  let _ ← token fun t => ws.any t.isSymbol

/-- A token of a given kind. -/
def kind (k : TokenKind) : Parser Token :=
  token (·.kind = k)

/-- A name. Letters in another style stand for plain ones. -/
def name : Parser Node := do
  let t ← kind .name
  return .name (String.ofList (t.text.toList.map plainLetter))

/-- A parser with commas between the times that it holds. -/
def separated (a : Parser α) : Parser (List α) := do
  let x ← a
  return x :: (← many do symbol ","; a)

/-- What a parser makes of a place, without searching for faults. -/
def unwary (a : Parser α) : Parser α := fun s p =>
  match a s { p with isWary := false } with
  | .error refusal => .error refusal
  | .ok (x, after) => .ok (x, { after with isWary := p.isWary })

/-- A parser that is only tried when faults are searched for. -/
def ifWary (a : Parser α) : Parser α := do
  if (← progress).isWary then a else fail

/-- The fault found by the first of several parsers that holds. If it finds that
there is no fault after all, the others are not tried. -/
def suspect (suspicions : List (Parser (Option Fault))) : Parser α := do
  match ← oneOf suspicions with
  | some fault => refuse fault
  | none => fail

/-- Remembers what a rule makes of a place. -/
def remember (rule : Rule) (place : Nat) (x : Option Node) (stop : Nat) : Parser Unit :=
  fun _ p => .ok (some (), { p with memory := p.memory.insert ⟨place, rule⟩ (x, stop) })

/-- Goes to a place. -/
def goTo (place : Nat) : Parser Unit :=
  fun _ p => .ok (some (), { p with position := place })

/-- Goes to where something ends that stands here, if something does. -/
def arrive (x : Option Node) (stop : Nat) : Parser Node := do
  goTo stop
  match x with
  | some node => return node
  | none => fail

/-- A rule that is remembered where it has been tried before. -/
def remembered (rule : Rule) (a : Parser Node) : Parser Node := do
  let place := (← progress).position
  match (← progress).memory[Trial.mk place rule]? with
  | some (x, stop) => arrive x stop
  | none =>
      let x ← optional a
      let stop := (← progress).position
      remember rule place x stop
      arrive x stop

/-- What a rule makes of a place that may start with the same rule again: first
nothing, then what a step makes of it with what was found before, as long as it
gets further. -/
def grown (rule : Rule) (step : Parser Node) (place : Nat) (best : Option Node) (stop : Nat) :
    Nat → Parser Node
  | 0 => arrive best stop
  | n + 1 => do
      remember rule place best stop
      goTo place
      match ← optional step with
      | none => arrive best stop
      | some x =>
          let reached := (← progress).position
          if reached ≤ stop then arrive best stop else grown rule step place (some x) reached n

/-- What a rule makes of a place that may start with the same rule again. -/
def grow (rule : Rule) (step : Parser Node) : Parser Node := do
  let place := (← progress).position
  grown rule step place none place ((← setting).tokens.tokens.size + 1)

end Parser

end SecurityRules.Parameter
