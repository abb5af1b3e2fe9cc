import SecurityRules.Command.Grammar
import SecurityRules.Text.Digit
import SecurityRules.Text.Quoted

/-!
# Reading arguments

Each argument is first read on its own: as an option, as an operand, or as the
separator after which everything is an operand. Then the arguments are taken in
order. A long option may be shortened as long as one option is meant; short
options without a value may share an argument.

An argument that starts with a dash is an operand only if it is a lone dash, a
negative number, or holds a space. The separator is never the value of an
option: where it stands as one, the option is given without a value.
-/

namespace SecurityRules

/-- Why arguments are not understood. -/
inductive Misuse where
  | ambiguous (argument : Text) (candidates : List Text)
  | noValue (option : OptionForm)
  | unusedValue (option : OptionForm) (value : Text)
  | conflict (option other : OptionForm)
  | unknownCommand (word : Text)
  | missing (operand : Operand)
  | unrecognized (arguments : List Text)
  deriving DecidableEq, Repr

def Misuse.message : Misuse → Text
  | ambiguous argument candidates =>
      "ambiguous option: " ++ argument ++ " could match " ++ Text.join ", " candidates
  | noValue option => "argument " ++ option.title ++ ": expected one argument"
  | unusedValue option value =>
      "argument " ++ option.title ++ ": ignored explicit argument " ++ value.quoted
  | conflict option other =>
      "argument " ++ option.title ++ ": not allowed with argument " ++ other.title
  | unknownCommand word =>
      "argument " ++ Operand.command.title ++ ": invalid choice: " ++ word.quoted
        ++ " (choose from " ++ Text.join ", " (Command.all.map fun c => c.word.quoted) ++ ")"
  | missing operand => "the following arguments are required: " ++ operand.title
  | unrecognized arguments => "unrecognized arguments: " ++ Text.join " " arguments

/-- What is written about arguments that are not understood. -/
def Grammar.complaint (g : Grammar) (misuse : Misuse) : Text :=
  g.usageLine ++ g.program ++ ": error: " ++ misuse.message ++ "\n"

/-- The argument after which everything is an operand. -/
def separator : Text := "--"

/-- What an argument is on its own. What follows an option in the same argument
is attached to it. -/
inductive Reading where
  | operand
  | separator
  | unknown
  | option (form : OptionForm) (spelling : Text) (attached : Option Text)

/-- Digits and nothing else. -/
def allDigits (t : Text) : Bool :=
  t.all (·.digit?.isSome)

/-- Whether an argument is a negative number. One line break may follow it. -/
def isNegativeNumber (argument : Text) : Bool :=
  match Text.after? "-" argument with
  | none => false
  | some number =>
      let number := if number.getLast? = some (.scalar '\n') then number.dropLast else number
      let whole := number.takeWhile (· ≠ .scalar '.')
      match number.dropWhile (· ≠ .scalar '.') with
      | [] => allDigits whole && !whole.isEmpty
      | _ :: fraction => allDigits whole && allDigits fraction && !fraction.isEmpty

/-- An argument cut at its first equals sign. -/
def cutAtEquals (argument : Text) : Text × Option Text :=
  match argument.dropWhile (· ≠ .scalar '=') with
  | [] => (argument, none)
  | _ :: value => (argument.takeWhile (· ≠ .scalar '='), some value)

namespace Grammar

/-- The options that an argument may be a shorter way to write. -/
def candidates (g : Grammar) (argument : Text) : List (Text × OptionForm × Option Text) :=
  if (Text.after? "--" argument).isSome then
    let (stem, attached) := cutAtEquals argument
    g.spellings.filterMap fun (spelling, form) =>
      if (stem.after? spelling).isSome then some (spelling, form, attached) else none
  else
    g.spellings.filterMap fun (spelling, form) =>
      if spelling = argument.take 2 then some (spelling, form, some (argument.drop 2)) else none

/-- Reads an argument that starts with a dash and is no spelling of an option. -/
def readDashed (g : Grammar) (argument : Text) : Except Misuse Reading :=
  let (stem, attached) := cutAtEquals argument
  match (if attached.isSome then g.named? stem else none) with
  | some form => .ok (.option form stem attached)
  | none =>
      match g.candidates argument with
      | [] =>
          if isNegativeNumber argument || argument.holds ' ' then .ok .operand else .ok .unknown
      | [(spelling, form, attached)] => .ok (.option form spelling attached)
      | several => .error (.ambiguous argument (several.map (·.1)))

/-- Reads one argument. -/
def readArgument (g : Grammar) (argument : Text) : Except Misuse Reading :=
  if (Text.after? "-" argument).isNone then .ok .operand
  else
    match g.named? argument with
    | some form => .ok (.option form argument none)
    | none => if argument.length = 1 then .ok .operand else g.readDashed argument

/-- Reads arguments one by one. -/
def readArguments (g : Grammar) : List Text → Except Misuse (List (Text × Reading))
  | [] => .ok []
  | argument :: rest =>
      if argument = separator then
        .ok ((argument, .separator) :: rest.map (·, .operand))
      else do
        let reading ← g.readArgument argument
        return (argument, reading) :: (← readArguments g rest)

end Grammar

/-- The options in one argument with their values, and an option whose value is
to be the next argument. -/
structure Spread where
  options : List (OptionForm × Option Text) := []
  pending : Option OptionForm := none

/-- An option without a value in its argument. -/
def Spread.ofOption (form : OptionForm) : Spread :=
  if form.takesValue then { pending := some form } else { options := [(form, none)] }

namespace Grammar

/-- The options in an argument in which something follows an option. After a
short option without a value it is more short options, each of them known. -/
def spreadAttached (g : Grammar) (form : OptionForm) ( isShort : Bool) :
    Text → Except Misuse Spread
  | [] =>
      if form.takesValue then .ok { options := [(form, some [])] }
      else .error (.unusedValue form [])
  | c :: rest =>
      if form.takesValue then .ok { options := [(form, some (c :: rest))] }
      else
        match (if isShort then g.named? [.scalar '-', c] else none) with
        | none => .error (.unusedValue form (c :: rest))
        | some next =>
            let later : Except Misuse Spread := match rest with
              | [] => .ok (.ofOption next)
              | d :: rest => spreadAttached g next true (d :: rest)
            later.map fun later => { later with options := (form, none) :: later.options }

/-- The options in an argument. -/
def spread (g : Grammar) (form : OptionForm) (spelling : Text) :
    Option Text → Except Misuse Spread
  | none => .ok (.ofOption form)
  | some attached => g.spreadAttached form (Text.after? "--" spelling).isNone attached

end Grammar

/-- What has been found among the arguments. -/
structure Found where
  flags : List Switch := []
  /-- The options that are to have a value, the last one first. -/
  values : List (Switch × Option Text) := []
  /-- The operand, once its place is taken. A separator alone takes it and
  leaves it empty. -/
  operand : Option (List Text) := none
  /-- Arguments that were not understood. -/
  extras : List Text := []

namespace Found

/-- The value of an option, if the option is given and has one. -/
def value? (f : Found) (switch : Switch) : Option Text :=
  (f.values.lookup switch).join

def flag (f : Found) (switch : Switch) : Bool :=
  f.flags.contains switch

/-- Whether an option has been given. -/
def has (f : Found) (switch : Switch) : Bool :=
  f.flag switch || (f.values.lookup switch).isSome

def addExtras (f : Found) (arguments : List Text) : Found :=
  { f with extras := f.extras ++ arguments }

end Found

/-- Why reading arguments stops early. -/
inductive Stop where
  | helpAsked
  | misused (misuse : Misuse)

namespace Grammar

/-- Takes an option into account. -/
def take (g : Grammar) (found : Found) (form : OptionForm) (value : Option Text) :
    Except Stop Found :=
  let rival := form.switch.rival?.bind fun rival =>
    if found.has rival then g.form? rival else none
  match rival with
  | some other => .error (.misused (.conflict form other))
  | none =>
      if form.switch = .help then .error .helpAsked
      else
        match value with
        | none => .ok { found with flags := form.switch :: found.flags }
        | some value =>
            let value := if value = separator then none else some value
            .ok { found with values := (form.switch, value) :: found.values }

/-- Takes options into account in order. -/
def takeAll (g : Grammar) (found : Found) : List (OptionForm × Option Text) → Except Stop Found
  | [] => .ok found
  | (form, value) :: rest =>
      match g.take found form value with
      | .error stop => .error stop
      | .ok found => takeAll g found rest

/-- Puts an operand or separator, with the arguments after it, in its place. -/
def place (g : Grammar) (found : Found) (argument : Text) (isSeparator : Bool)
    (rest : List (Text × Reading)) : Found × Nat :=
  match found.operand, g.operand, isSeparator, rest with
  | some _, _, _, _ => (found.addExtras [argument], 0)
  | none, .command, true, [] => (found.addExtras [argument], 0)
  | none, .command, _, rest =>
      ({ found with operand := some (argument :: rest.map (·.1)) }, rest.length)
  | none, .schema true, true, [] => (found.addExtras [argument], 0)
  | none, .schema false, true, [] => ({ found with operand := some [] }, 0)
  | none, .schema _, true, (next, _) :: _ => ({ found with operand := some [next] }, 1)
  | none, .schema _, false, (_, .separator) :: _ =>
      ({ found with operand := some [argument] }, 1)
  | none, .schema _, false, _ => ({ found with operand := some [argument] }, 0)

/-- Takes arguments in order. The first `skip` of them are already taken. -/
def takeArguments (g : Grammar) (found : Found) (skip : Nat) :
    List (Text × Reading) → Except Stop Found
  | [] => .ok found
  | (argument, reading) :: rest =>
      match skip with
      | skip + 1 => takeArguments g found skip rest
      | 0 =>
          match reading with
          | .unknown => takeArguments g (found.addExtras [argument]) 0 rest
          | .operand =>
              let (found, skip) := g.place found argument false rest
              takeArguments g found skip rest
          | .separator =>
              let (found, skip) := g.place found argument true rest
              takeArguments g found skip rest
          | .option form spelling attached =>
              match g.spread form spelling attached with
              | .error misuse => .error (.misused misuse)
              | .ok options =>
                  match options.pending, rest with
                  | none, rest =>
                      match g.takeAll found options.options with
                      | .error stop => .error stop
                      | .ok found => takeArguments g found 0 rest
                  | some form, (value, .operand) :: rest =>
                      match g.takeAll found (options.options ++ [(form, some value)]) with
                      | .error stop => .error stop
                      | .ok found => takeArguments g found 1 ((value, .operand) :: rest)
                  | some form, _ => .error (.misused (.noValue form))

/-- Reads and takes arguments. The operand has to be there if it is required. -/
def parse (g : Grammar) (arguments : List Text) : Except Stop Found :=
  match g.readArguments arguments with
  | .error misuse => .error (.misused misuse)
  | .ok readings =>
      match g.takeArguments {} 0 readings with
      | .error stop => .error stop
      | .ok found =>
          if found.operand.isNone && g.operand != .schema false then
            .error (.misused (.missing g.operand))
          else .ok found

end Grammar

end SecurityRules
