import SecurityRules.Text.CodePoint

/-!
# The command line

Which options and operands there are, and the texts that explain them. The
program has four commands. Each has a grammar of its own, and so has what may
stand before the command.
-/

namespace SecurityRules

/-- What an option is for. -/
inductive Switch where
  | help
  | config
  | verbose
  | output
  | indent
  | tabs
  | strict
  deriving DecidableEq, Repr

/-- An option with its spellings, and whether a value belongs to it. -/
structure OptionForm where
  switch : Switch
  spellings : List Text
  takesValue : Bool := false
  deriving DecidableEq, Repr

/-- The name of an option in messages. -/
def OptionForm.title (form : OptionForm) : Text :=
  Text.join "/" form.spellings

/-- Options that exclude each other. -/
def Switch.rival? : Switch → Option Switch
  | indent => some .tabs
  | tabs => some .indent
  | _ => none

/-- What stands beside the options: a command with all that follows it, or the
path of a schema. -/
inductive Operand where
  | command
  | schema ( isRequired : Bool)
  deriving DecidableEq, Repr

def Operand.title : Operand → Text
  | command => "command"
  | schema _ => "schema"

structure Grammar where
  program : Text
  usage : Text
  /-- What follows the usage line in the help text. -/
  explanation : List Text
  options : List OptionForm
  operand : Operand

namespace Grammar

/-- Each spelling with the option it belongs to, in order. -/
def spellings (g : Grammar) : List (Text × OptionForm) :=
  g.options.flatMap fun form => form.spellings.map (·, form)

/-- The option with exactly this spelling. -/
def named? (g : Grammar) (spelling : Text) : Option OptionForm :=
  (g.spellings.find? (·.1 = spelling)).map (·.2)

def form? (g : Grammar) (switch : Switch) : Option OptionForm :=
  g.options.find? (·.switch = switch)

def usageLine (g : Grammar) : Text :=
  "usage: " ++ g.program ++ " " ++ g.usage ++ "\n"

def helpText (g : Grammar) : Text :=
  g.usageLine ++ "\n" ++ Text.join "\n" g.explanation

end Grammar

def helpOption : OptionForm := ⟨.help, ["-h", "--help"], false⟩
def configOption : OptionForm := ⟨.config, ["--config"], true⟩
def verboseOption : OptionForm := ⟨.verbose, ["--verbose", "-v"], false⟩
def outputOption : OptionForm := ⟨.output, ["--output", "-o"], true⟩
def indentOption : OptionForm := ⟨.indent, ["--indent"], true⟩
def tabsOption : OptionForm := ⟨.tabs, ["--tabs"], false⟩
def strictOption : OptionForm := ⟨.strict, ["--strict"], false⟩

inductive Command where
  | compile
  | check
  | models
  | convert
  deriving DecidableEq, Repr

namespace Command

def all : List Command := [compile, check, models, convert]

def word : Command → Text
  | compile => "compile"
  | check => "check"
  | models => "models"
  | convert => "convert"

def ofWord? (word : Text) : Option Command :=
  all.find? (·.word = word)

end Command

/-- The name of the program. -/
def programName : Text := "firestore-rulegen"

/-- What may stand before a command. -/
def mainGrammar : Grammar :=
  { program := programName
    usage := "[-h] [--config CONFIG] [--verbose] \x7bcompile,check,models,convert\x7d ..."
    explanation :=
      ["Compile data model schemas into Firestore security rules",
       "",
       "positional arguments:",
       "  \x7bcompile,check,models,convert\x7d",
       "    compile             Compile a schema into rules text",
       "    check               Report dangling references, name collisions and warnings",
       "    models              List models with their access settings",
       "    convert             Rewrite a schema in the persisted (list) encoding",
       "",
       "options:",
       "  -h, --help            show this help message and exit",
       "  --config CONFIG       Path to rulegen.toml (default: ./rulegen.toml if present)",
       "  --verbose, -v         Show debug logging",
       ""]
    options := [helpOption, configOption, verboseOption]
    operand := .command }

/-- The help of a command that has a schema and no options of its own. -/
def plainExplanation : List Text :=
  ["positional arguments:",
   "  schema      Path to schema JSON",
   "",
   "options:",
   "  -h, --help  show this help message and exit",
   ""]

def Command.grammar (command : Command) : Grammar :=
  let program : Text := programName ++ " " ++ command.word
  match command with
  | .compile =>
      { program
        usage := "[-h] [--output OUTPUT] [--indent INDENT | --tabs] [--strict] [schema]"
        explanation :=
          ["positional arguments:",
           "  schema                Path to schema JSON (default: [schema] file from config)",
           "",
           "options:",
           "  -h, --help            show this help message and exit",
           "  --output OUTPUT, -o OUTPUT",
           "                        Write rules to this file instead of stdout",
           "  --indent INDENT       Indentation replacing tabs (default: two spaces)",
           "  --tabs                Keep tab indentation",
           "  --strict              Refuse to compile when the schema check reports errors",
           ""]
        options := [helpOption, outputOption, indentOption, tabsOption, strictOption]
        operand := .schema false }
  | .check | .models =>
      { program
        usage := "[-h] [schema]"
        explanation := plainExplanation
        options := [helpOption]
        operand := .schema false }
  | .convert =>
      { program
        usage := "[-h] [--output OUTPUT] schema"
        explanation :=
          ["positional arguments:",
           "  schema                Path to schema JSON in either encoding",
           "",
           "options:",
           "  -h, --help            show this help message and exit",
           "  --output OUTPUT, -o OUTPUT",
           "                        Write the converted schema to this file instead of stdout",
           ""]
        options := [helpOption, outputOption]
        operand := .schema true }

end SecurityRules
