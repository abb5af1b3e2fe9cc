import SecurityRules.Command.Argument

/-!
# Invocations

What the arguments of the program ask for: one of four tasks, with the options
that bear on it. Arguments that ask for help or are not understood end the
program before it does anything.
-/

namespace SecurityRules

/-- What the options say about the unit of indentation. -/
inductive IndentChoice where
  /-- Nothing, so that the settings decide. -/
  | settings
  | tabs
  | unit (t : Text)
  /-- The option is given, but without a value. -/
  | blank
  deriving DecidableEq, Repr

/-- What is to be done. A schema that is not given comes from the settings. -/
inductive Task where
  | compile (schema output : Option Text) (indent : IndentChoice) (strict : Bool)
  | check (schema : Option Text)
  | models (schema : Option Text)
  | convert (schema : Text) (output : Option Text)
  deriving DecidableEq, Repr

structure Invocation where
  config : Option Text := none
  verbose : Bool := false
  task : Task
  deriving DecidableEq, Repr

/-- How arguments end the program. -/
inductive Ending where
  | help (grammar : Grammar)
  | misuse (grammar : Grammar) (misuse : Misuse)

def Ending.ofStop (grammar : Grammar) : Stop → Ending
  | .helpAsked => .help grammar
  | .misused cause => .misuse grammar cause

/-- The choice of indentation among the options found. -/
def Found.indentChoice (f : Found) : IndentChoice :=
  if f.flag .tabs then .tabs
  else if f.has .indent then
    match f.value? .indent with
    | some unit => .unit unit
    | none => .blank
  else .settings

/-- The task of a command with the options found after it. -/
def Command.task (command : Command) (found : Found) : Task :=
  let schema := found.operand.bind List.head?
  match command with
  | compile =>
      .compile schema (found.value? .output) found.indentChoice (found.flag .strict)
  | check => .check schema
  | models => .models schema
  | convert => .convert (schema.getD []) (found.value? .output)

namespace Invocation

/-- What the arguments of the program ask for. Arguments that nothing
understands are reported last, those before the command first. -/
def ofArguments (arguments : List Text) : Except Ending Invocation :=
  match mainGrammar.parse arguments with
  | .error stop => .error (.ofStop mainGrammar stop)
  | .ok found =>
      let (word, rest) : Text × List Text := match found.operand with
        | some (word :: rest) => (word, rest)
        | _ => ([], [])
      match Command.ofWord? word with
      | none => .error (.misuse mainGrammar (.unknownCommand word))
      | some command =>
          match command.grammar.parse rest with
          | .error stop => .error (.ofStop command.grammar stop)
          | .ok inner =>
              match found.extras ++ inner.extras with
              | [] =>
                  .ok { config := found.value? .config, verbose := found.flag .verbose,
                        task := command.task inner }
              | extras => .error (.misuse mainGrammar (.unrecognized extras))

end Invocation

end SecurityRules
