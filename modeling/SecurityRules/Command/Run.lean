import SecurityRules.Check.Basic
import SecurityRules.Command.Action
import SecurityRules.Command.Invocation
import SecurityRules.Command.Listing
import SecurityRules.Ruleset.Document
import SecurityRules.Schema.Encode

/-!
# The four tasks

A task ends with an exit code. Faults that the user can do something about are
printed and give the code one; what nothing provides for is a failure.
-/

namespace SecurityRules

/-- An exit code. -/
abbrev ExitCode := Nat

/-- Prints what went wrong, as it is. -/
def printError (console : Console) (message : Text) : Action Unit :=
  Action.printMarkup console ("[red]Error: " ++ Markup.escape message ++ "[/red]")

/-- Whether a fault in the settings is printed. -/
def SettingsFileFault.isReported : SettingsFileFault → Bool
  | missing _ => true
  | tooLong _ => false
  | isDirectory _ => false
  | invalid (.notTable _) => false
  | invalid (.unread .tooDeep) => false
  | invalid _ => true

/-- Whether a fault in the schema is printed. -/
def SchemaFileFault.isReported : SchemaFileFault → Bool
  | missing _ => true
  | tooLong _ => false
  | isDirectory _ => false
  | undecoded _ => false
  | unloaded (.unread (.tooManyDigits _)) => false
  | unloaded .tooDeep => false
  | unloaded _ => true

/-- The value of an option, if it is there and not empty. -/
def given : Option Text → Option Text
  | some [] => none
  | value => value

/-- The unit of indentation that is chosen. -/
def IndentChoice.unit? (settings : Settings) : IndentChoice → Option Text
  | .settings => some settings.indent
  | tabs => some tab
  | unit t => some t
  | blank => none

namespace Invocation

/-- The settings that a task works with: those of the file that is asked for,
which has to be there, or else those of the default file, if it is there. -/
def settings (host : Host) (i : Invocation) : Action (Except SettingsFileFault Settings) :=
  match given i.config with
  | some config =>
      let path := Path.ofText config
      .inspect path fun node => pure (Settings.ofFile path node host.stack)
  | none =>
      .inspect Settings.defaultPath fun
        | .error _ => do
            Action.note i.verbose .noSettings
            return .ok {}
        | node => pure (Settings.ofFile (Settings.fullDefaultPath host.directory) node host.stack)

/-- Goes on with the settings, or reports what is wrong with them. -/
def withSettings (host : Host) (i : Invocation) (next : Settings → Action ExitCode) :
    Action ExitCode := do
  match ← i.settings host with
  | .ok settings => next settings
  | .error fault =>
      if fault.isReported then
        printError host.console fault.message
        return 1
      else .fail (.settingsFile fault)

/-- Goes on with the schema in a file, or reports what is wrong with it. -/
def withSchema (host : Host) (i : Invocation) (file : Text) (next : Schema → Action ExitCode) :
    Action ExitCode :=
  let path := Path.ofText file
  .inspect path fun node => do
    match Schema.ofFile path node host.stack with
    | .ok s =>
        Action.note i.verbose (.loaded s.length)
        next s
    | .error fault =>
        if fault.isReported then
          printError host.console fault.message
          return 1
        else .fail (.schemaFile fault)

/-- Writes a document to a file and says so, or prints it. -/
def deliver (console : Console) (document : Text) : Option Text → Action Unit
  | none => Action.printLine document
  | some file =>
      .write (.ofText file) (document ++ "\n")
        (Action.printMarkup console
          ("[bold green]v[/bold green] Wrote [cyan]" ++ file ++ "[/cyan]"))

/-- Prints the report of a check below a headline. -/
def printReport (console : Console) (headline : Text) (report : Report) : Action Unit := do
  Action.printText console headline
  Action.printText console report.text

/-- Compiles a schema and logs what it meets. -/
def compiled (i : Invocation) (s : Schema) : Action Text := do
  for m in s do
    if m.isEmpty then
      Action.note i.verbose (.noClauses m.name)
  let rules := s.compile
  Action.note i.verbose (.compiled s.length rules.length)
  return rules

/-- The actions that an invocation stands for. -/
def action (host : Host) (i : Invocation) : Action ExitCode :=
  match i.task with
  | .compile schema output indent strict =>
      i.withSettings host fun settings =>
        i.withSchema host ((given schema).getD settings.schemaFile) fun s => do
          let report := s.check
          if !report.valid && (strict || settings.strict) then
            printReport host.console "x Refusing to compile" report
            return 1
          else
            if !report.valid then
              Action.note i.verbose (.hasErrors report.errorCount)
            let rules ← i.compiled s
            match indent.unit? settings with
            | none => .fail .noIndent
            | some unit =>
                deliver host.console (expandIndent unit rules)
                  ((given output).or (given settings.outputFile))
                return 0
  | .check schema =>
      i.withSettings host fun settings =>
        i.withSchema host ((given schema).getD settings.schemaFile) fun s => do
          let report := s.check
          if report.valid then
            if report.warningCount > 0 then
              printReport host.console "v Schema is valid" report
            else Action.printText host.console "v Schema is valid"
            return 0
          else
            printReport host.console "x Schema has errors" report
            return 1
  | .models schema =>
      i.withSettings host fun settings =>
        i.withSchema host ((given schema).getD settings.schemaFile) fun s =>
          match s.listing host.console with
          | .error fault => .fail (.markup fault)
          | .ok table =>
              match table.lines host.console with
              | .error fault => .fail (.markup (.unreadNumber fault))
              | .ok lines => .print (Text.ofLines lines) (return 0)
  | .convert schema output =>
      i.withSchema host schema fun s => do
        deliver host.console (s.dump Schema.defaultLayout) (given output)
        return 0

end Invocation

/-- How a run of the program ends, and what it writes about its arguments. -/
inductive Outcome where
  | finished (code : ExitCode)
  | stopped (code : ExitCode) (complaint : Text)
  | failed (failure : Failure)

/-- Runs the program on a file tree in memory. -/
def execute (host : Host) (tree : FileTree) (arguments : List Text) : Outcome × World :=
  match Invocation.ofArguments arguments with
  | .error (.help grammar) => (.stopped 0 [], { tree, printed := grammar.helpText })
  | .error (.misuse grammar misuse) =>
      (.stopped 2 (grammar.complaint misuse), { tree })
  | .ok invocation =>
      match (invocation.action host).run host { tree } with
      | (.ok code, world) => (.finished code, world)
      | (.error failure, world) => (.failed failure, world)

end SecurityRules
