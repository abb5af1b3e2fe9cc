import SecurityRules.Command.Host
import SecurityRules.Console.Markup
import SecurityRules.Console.Page
import SecurityRules.Files.Source

/-!
# Actions

What the program does to the world is a value: a tree of steps, each of which
looks at a path, writes a file, prints, or logs. The tree says everything, so it
can be run by whoever can carry out these four steps: on a file tree in memory
as well as on the real one.
-/

namespace SecurityRules

inductive Level where
  | debug
  | warning
  deriving DecidableEq, Repr

/-- What is worth logging. -/
inductive Event where
  | noSettings
  | loaded (models : Nat)
  | noClauses (model : Text)
  | compiled (models characters : Nat)
  | hasErrors (count : Nat)
  deriving DecidableEq, Repr

namespace Event

def level : Event → Level
  | hasErrors _ => .warning
  | _ => .debug

def message : Event → Text
  | noSettings => "No rulegen.toml in current directory, using defaults"
  | loaded models => "Parsed schema with " ++ Text.ofNat models ++ " models"
  | noClauses model => "Model '" ++ model ++ "' has no clauses, validator returns true"
  | compiled models characters =>
      "Compiled " ++ Text.ofNat models ++ " models into " ++ Text.ofNat characters
        ++ " characters"
  | hasErrors count => "Schema has " ++ Text.ofNat count ++ " errors; rules may not load"

end Event

/-- What ends the program without an exit code. -/
inductive Failure where
  | schemaFile (fault : SchemaFileFault)
  | settingsFile (fault : SettingsFileFault)
  | unwritten (path : Path) (fault : WriteFault)
  | markup (fault : Markup.Fault)
  | noIndent

def Failure.message : Failure → Text
  | schemaFile fault => fault.message
  | settingsFile fault => fault.message
  | unwritten path fault => fault.message path
  | markup fault => fault.message
  | noIndent => "replace() argument 2 must be str, not list"

/-- Steps that end in a result or a failure. -/
inductive Action (α : Type) where
  | done (result : α)
  | fail (failure : Failure)
  | inspect (path : Path) (next : Except PathFault Node → Action α)
  | write (path : Path) (content : Text) (next : Action α)
  | print (t : Text) (next : Action α)
  | log (event : Event) (next : Action α)

/-- The path by which messages refer to what is printed on. -/
def standardOutput : Path :=
  .ofText "<stdout>"

/-- How the steps of an action are carried out. -/
structure Interpreter (m : Type → Type) where
  inspect : Path → m (Except PathFault Node)
  write : Path → Text → m (Except WriteFault Unit)
  print : Text → m (Except Utf8.LoneHalves Unit)
  log : Event → m Unit

/-- What actions see and change. -/
structure World where
  tree : FileTree
  printed : Text := []
  events : List Event := []

/-- Steps in a world in memory. -/
def World.interpreter (host : Host) : Interpreter (StateM World) where
  inspect path := fun w => (w.tree.look path host.home, w)
  write path content := fun w =>
    let (result, tree) := w.tree.write host.home path content
    (result, { w with tree })
  print t := fun w =>
    match host.console.refused? t with
    | some halves => (.error halves, w)
    | none => (.ok (), { w with printed := w.printed ++ t })
  log event := fun w => ((), { w with events := w.events ++ [event] })

namespace Action

variable {α β : Type}

protected def bind (action : Action α) (f : α → Action β) : Action β :=
  match action with
  | done result => f result
  | fail failure => fail failure
  | inspect path next => inspect path fun node => (next node).bind f
  | write path content next => write path content (next.bind f)
  | print t next => print t (next.bind f)
  | log event next => log event (next.bind f)

instance : Monad Action where
  pure := done
  bind := Action.bind

/-- Carries out an action step by step, up to the first one that fails. -/
def interpret {m : Type → Type} [Monad m] (interpreter : Interpreter m) :
    Action α → m (Except Failure α)
  | done result => pure (.ok result)
  | fail failure => pure (.error failure)
  | inspect path next => do
      let node ← interpreter.inspect path
      interpret interpreter (next node)
  | write path content next => do
      match ← interpreter.write path content with
      | .ok () => interpret interpreter next
      | .error fault => pure (.error (.unwritten path fault))
  | print t next => do
      match ← interpreter.print t with
      | .ok () => interpret interpreter next
      | .error halves => pure (.error (.unwritten standardOutput (.loneHalves halves)))
  | log event next => do
      interpreter.log event
      interpret interpreter next

/-- Runs an action in a world in memory. -/
def run (host : Host) (w : World) (action : Action α) : Except Failure α × World :=
  StateT.run (action.interpret (World.interpreter host)) w

section

variable (host : Host) (w : World)

@[simp] theorem run_done (result : α) : (done result).run host w = (.ok result, w) := rfl

@[simp] theorem run_fail (failure : Failure) :
    (fail failure : Action α).run host w = (.error failure, w) := rfl

@[simp] theorem run_inspect (path : Path) (next : Except PathFault Node → Action α) :
    (inspect path next).run host w = (next (w.tree.look path host.home)).run host w := rfl

theorem run_write (path : Path) (content : Text) (next : Action α) :
    (write path content next).run host w = match w.tree.write host.home path content with
      | (.ok (), tree) => next.run host { w with tree }
      | (.error fault, tree) => (.error (.unwritten path fault), { w with tree }) := by
  simp only [run, interpret, World.interpreter, bind, StateT.bind, StateT.run]
  obtain ⟨result, tree⟩ := w.tree.write host.home path content
  cases result <;> rfl

theorem run_print (t : Text) (next : Action α) :
    (print t next).run host w = match host.console.refused? t with
      | none => next.run host { w with printed := w.printed ++ t }
      | some halves => (.error (.unwritten standardOutput (.loneHalves halves)), w) := by
  simp only [run, interpret, World.interpreter, bind, StateT.bind, StateT.run]
  cases host.console.refused? t <;> rfl

@[simp] theorem run_log (event : Event) (next : Action α) :
    (log event next).run host w = next.run host { w with events := w.events ++ [event] } := rfl

end

/-- Prints a text as it is, with a line feed. -/
def printLine (t : Text) : Action Unit :=
  print (t ++ "\n") (done ())

/-- Prints a text without markup. -/
def printText (console : Console) (t : Text) : Action Unit :=
  print (console.plainPage t) (done ())

/-- Prints a text with markup. -/
def printMarkup (console : Console) (t : Text) : Action Unit :=
  match Markup.render console t with
  | .error fault => fail (.markup fault)
  | .ok shown =>
      match console.page shown with
      | .error fault => fail (.markup (.unreadNumber fault))
      | .ok page => print page (done ())

/-- Logs an event. Debugging events are wanted only if the program is verbose. -/
def note (verbose : Bool) (event : Event) : Action Unit :=
  if verbose || event.level = .warning then log event (done ()) else done ()

end Action

end SecurityRules
