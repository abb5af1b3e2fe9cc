import SecurityRules.Console.Parameter.Literal

/-!
# Reading parameters

Parameters are read as an expression, and then have to be a literal.
-/

namespace SecurityRules.Parameter

/-- What parameters are. -/
inductive Reading where
  | literal
  | notLiteral (fault : LiteralFault)
  | misread (fault : Fault)
  /-- Too many expressions stand one in another. -/
  | tooDeep
  deriving DecidableEq, Repr

/-- How many expressions may stand one in another. -/
def maxHeight : Nat := 2900

/-- A text with every line break written in the same way. -/
def withLineBreaks : List Char → List Char
  | '\r' :: '\n' :: rest => '\n' :: withLineBreaks rest
  | '\r' :: rest => '\n' :: withLineBreaks rest
  | c :: rest => c :: withLineBreaks rest
  | [] => []

/-- Reads parameters. -/
def read (cs : List Char) : Reading :=
  match Node.ofText (withLineBreaks (cs.dropWhile fun c => c = ' ' || c = '\t')) with
  | .error fault => .misread fault
  | .ok node =>
      if maxHeight < node.height then .tooDeep
      else
        match node.literal with
        | .ok _ => .literal
        | .error fault => .notLiteral fault

end SecurityRules.Parameter
