import SecurityRules.Console.Parameter.Reader
import SecurityRules.Text.Alphanumeric
import SecurityRules.Text.Blank
import SecurityRules.Text.Quoted
import SecurityRules.Text.Utf8

/-!
# Handlers

A tag that starts with an at sign names a handler for what happens to its text.
Its parameters are a name, a name with arguments in parentheses, or arguments
alone. A name is not looked up, but arguments have to be a literal.
-/

namespace SecurityRules

/-- Why the arguments of a handler are refused. -/
inductive ArgumentFault where
  | misread (fault : Parameter.Fault)
  | nullCharacter
  | loneHalves (halves : Utf8.LoneHalves)
  | notLiteral (fault : Parameter.LiteralFault)
  | tooDeep

/-- A fault in the arguments of a handler with these parameters. -/
structure HandlerFault where
  arguments : Text
  parameters : Text
  cause : ArgumentFault

def HandlerFault.message (fault : HandlerFault) : Text :=
  let inside (reason : Text) : Text :=
    "error parsing " ++ fault.arguments.quoted ++ " in " ++ fault.parameters.quoted ++ "; "
      ++ reason
  let whole (reason : Text) : Text :=
    "error parsing " ++ fault.parameters.quoted ++ "; " ++ reason
  match fault.cause with
  | .misread .exhausted => whole ""
  | .misread cause => inside cause.message
  | .nullCharacter => whole "source code string cannot contain null bytes"
  | .loneHalves halves => whole halves.message
  | .notLiteral .notLiteral => whole "malformed node or string"
  | .notLiteral .noKey => whole "malformed node or string: None"
  | .notLiteral (.unhashable kind) => whole ("unhashable type: '" ++ Text.ofString kind ++ "'")
  | .notLiteral .tooLarge => whole "int too large to convert to float"
  | .tooDeep => whole "maximum recursion depth exceeded during ast construction"

namespace Handler

/-- Whether a code point may stand in the name of a handler. -/
def isInName (c : CodePoint) : Bool :=
  c.isAlphanumeric || c = .scalar '_' || c = .scalar '.'

/-- The arguments among parameters: what stands in parentheses after a name, or
everything if that is not how they are written. A name alone has none. -/
def argumentsOf (parameters : Text) : Text :=
  match parameters.dropWhile isInName with
  | [] => "()"
  | .scalar '(' :: rest =>
      if rest.getLast? = some (.scalar ')') && !Text.holds rest '\n' then .scalar '(' :: rest
      else parameters
  | _ => parameters

/-- Why arguments are refused. -/
def argumentFault? (arguments : Text) : Option ArgumentFault :=
  match Utf8.encode arguments with
  | .error halves => some (.loneHalves halves)
  | .ok _ =>
      if arguments.holds '\x00' then some .nullCharacter
      else
        let characters := arguments.filterMap fun
          | .scalar c => some c
          | .surrogate _ => none
        match Parameter.read characters with
        | .literal => none
        | .notLiteral fault => some (.notLiteral fault)
        | .misread fault => some (.misread fault)
        | .tooDeep => some .tooDeep

/-- What is wrong with the parameters of a handler. -/
def fault? (parameters : Text) : Option HandlerFault :=
  if parameters.isEmpty then none
  else
    let arguments := argumentsOf parameters.trim
    (argumentFault? arguments).map fun cause => { arguments, parameters, cause }

end Handler

end SecurityRules
