import SecurityRules.Proofs.ConvertArguments
import SecurityRules.Proofs.ProgramOutputs
import SecurityRules.Proofs.Results

/-!
# Settings that the arguments override

Each of the settings has an option that takes its place, and each option does so
by a rule of its own: an empty file name counts as none, an empty unit of
indentation does not, and strictness is asked for by either. When all of them
are given, the settings have no say. `execute_overrides_settings` compares two
whole runs that differ in the settings file only: they are the same in every
respect.

The settings file itself is asked for by an option before the command. `AsksFor`
lists the two ways to write it, and `AsksFor.parse` says what it adds to
what the other arguments ask for.
-/

namespace SecurityRules

/-- A task that leaves nothing to the settings. -/
def Task.IsSelfContained : Task → Prop
  | .compile schema output indent strict =>
      (given schema).isSome ∧ (given output).isSome ∧ indent ≠ .settings ∧ strict
  | _ => False

/-! ## Runs with one file or the other -/

/-- Settings are loaded only from a file with a name. -/
theorem Settings.given_of_ofFile {host : Host} {tree : FileTree} {file : Text}
    {settings : Settings}
    (h : Settings.ofFile (.ofText file) (tree.look (.ofText file) host.home) host.stack
      = .ok settings) :
    given (some file) = some file := by
  cases file with
  | nil =>
      -- no name at all stands for the current directory
      have hdirectory : tree.look (.ofText []) host.home = .ok .directory := rfl
      rw [hdirectory] at h
      cases h
  | cons c file => rfl

theorem IndentChoice.unit?_eq {indent : IndentChoice} (h : indent ≠ .settings) (a b : Settings) :
    indent.unit? a = indent.unit? b := by
  cases indent with
  | settings => exact absurd rfl h
  | tabs | unit _ | blank => rfl

namespace Invocation

variable {host : Host} {file : Text} {i : Invocation} {settings : Settings} {w : World}

theorem run_withSettings (hfile : given i.config = some file)
    (h : Settings.ofFile (.ofText file) (w.tree.look (.ofText file) host.home) host.stack
      = .ok settings)
    (next : Settings → Action ExitCode) :
    (i.withSettings host next).run host w = (next settings).run host w := by
  unfold withSettings Invocation.settings
  simp only [hfile, bind, pure, Action.bind, Action.run_inspect, h]

/-- A task that leaves nothing to the settings does the same with all of them. -/
theorem run_action_eq (htask : i.task.IsSelfContained) {a b : Text} {settingsA settingsB : Settings}
    (hA : Settings.ofFile (.ofText a) (w.tree.look (.ofText a) host.home) host.stack
      = .ok settingsA)
    (hB : Settings.ofFile (.ofText b) (w.tree.look (.ofText b) host.home) host.stack
      = .ok settingsB) :
    (({ i with config := some a } : Invocation).action host).run host w
      = (({ i with config := some b } : Invocation).action host).run host w := by
  obtain ⟨config, verbose, task⟩ := i
  cases task with
  | compile schema output indent strict =>
      obtain ⟨hschema, houtput, hindent, hstrict⟩ := htask
      obtain ⟨schemaFile, hschema⟩ := Option.isSome_iff_exists.mp hschema
      obtain ⟨outputFile, houtput⟩ := Option.isSome_iff_exists.mp houtput
      simp only [action, hschema, houtput, hstrict, Option.getD_some, Option.some_or, Bool.true_or]
      rw [run_withSettings (Settings.given_of_ofFile hA) hA,
        run_withSettings (Settings.given_of_ofFile hB) hB,
        IndentChoice.unit?_eq hindent settingsA settingsB]
      rfl
  | check _ | models _ | convert _ _ => exact htask.elim

end Invocation

/-! ## Asking for a settings file -/

/-- Arguments that ask for a settings file, and then for whatever the rest of them
asks for. A name that starts with a dash has to be attached to its option. -/
inductive AsksFor (file : Text) (rest : List Text) : List Text → Prop
  | apart (h : file.IsUndashed) : AsksFor file rest ("--config" :: file :: rest)
  | attached (h : file ≠ separator) : AsksFor file rest (("--config=" ++ file) :: rest)

/-- What has been found after options that came earlier. -/
def Found.after (earlier : List (Switch × Option Text)) (f : Found) : Found :=
  { f with values := f.values ++ earlier }

namespace Grammar

variable (earlier : List (Switch × Option Text))

/-- The options before a command exclude nothing. -/
theorem rival_mainGrammar (found : Found) (form : OptionForm) :
    (form.switch.rival?.bind fun rival =>
      if found.has rival then mainGrammar.form? rival else none) = none := by
  have htabs : mainGrammar.form? .tabs = none := rfl
  have hindent : mainGrammar.form? .indent = none := rfl
  cases form.switch <;> simp [Switch.rival?, htabs, hindent]

theorem take_after (found : Found) (form : OptionForm) (value : Option Text) :
    mainGrammar.take (found.after earlier) form value
      = (mainGrammar.take found form value).map (Found.after earlier) := by
  simp only [take, rival_mainGrammar]
  split
  · rfl
  · cases value <;> rfl

theorem takeAll_after (found : Found) (options : List (OptionForm × Option Text)) :
    mainGrammar.takeAll (found.after earlier) options
      = (mainGrammar.takeAll found options).map (Found.after earlier) := by
  induction options generalizing found with
  | nil => rfl
  | cons option options ih =>
      obtain ⟨form, value⟩ := option
      rw [takeAll, takeAll, take_after]
      cases mainGrammar.take found form value with
      | error stop => rfl
      | ok found => exact ih found

theorem place_after (found : Found) (argument : Text) (isSeparator : Bool)
    (rest : List (Text × Reading)) :
    mainGrammar.place (found.after earlier) argument isSeparator rest
      = ((mainGrammar.place found argument isSeparator rest).1.after earlier,
          (mainGrammar.place found argument isSeparator rest).2) := by
  obtain ⟨flags, values, operand, extras⟩ := found
  cases operand with
  | some _ => rfl
  | none => cases isSeparator <;> cases rest <;> rfl

/-- What comes earlier has no influence on what is found later. -/
theorem takeArguments_after (found : Found) (skip : Nat) (readings : List (Text × Reading)) :
    mainGrammar.takeArguments (found.after earlier) skip readings
      = (mainGrammar.takeArguments found skip readings).map (Found.after earlier) := by
  induction readings generalizing found skip with
  | nil => rfl
  | cons reading readings ih =>
      obtain ⟨argument, reading⟩ := reading
      cases skip with
      | succ skip => exact ih found skip
      | zero =>
          cases reading with
          | unknown => exact ih (found.addExtras [argument]) 0
          | operand =>
              rw [takeArguments, takeArguments, place_after]
              exact ih _ _
          | separator =>
              rw [takeArguments, takeArguments, place_after]
              exact ih _ _
          | option form spelling attached =>
              rw [takeArguments, takeArguments]
              cases mainGrammar.spread form spelling attached with
              | error misuse => rfl
              | ok options =>
                  obtain ⟨options, pending⟩ := options
                  cases pending with
                  | none =>
                      simp only [takeAll_after]
                      cases mainGrammar.takeAll found options with
                      | error stop => rfl
                      | ok found => exact ih found 0
                  | some form =>
                      cases readings with
                      | nil => rfl
                      | cons next readings =>
                          obtain ⟨value, reading⟩ := next
                          cases reading with
                          | operand =>
                              simp only [takeAll_after]
                              cases mainGrammar.takeAll found (options ++ [(form, some value)]) with
                              | error stop => rfl
                              | ok found => exact ih found 1
                          | separator | unknown | option _ _ _ => rfl

/-- Arguments that are read and taken as others are, after options that came
earlier. -/
theorem parse_after {arguments rest : List Text}
    {lead : List (Text × Reading) → List (Text × Reading)}
    (hread : mainGrammar.readArguments arguments = (mainGrammar.readArguments rest).map lead)
    (htake : ∀ readings, mainGrammar.takeArguments {} 0 (lead readings)
      = mainGrammar.takeArguments (Found.after earlier {}) 0 readings) :
    mainGrammar.parse arguments = (mainGrammar.parse rest).map (Found.after earlier) := by
  rw [parse, parse, hread]
  cases mainGrammar.readArguments rest with
  | error misuse => rfl
  | ok readings =>
      simp only [Except.map, htake, takeArguments_after]
      cases mainGrammar.takeArguments {} 0 readings with
      | error stop => rfl
      | ok found =>
          have hoperand : (found.after earlier).operand = found.operand := rfl
          simp only [hoperand]
          split <;> rfl

theorem take_config {file : Text} (h : file ≠ separator) :
    mainGrammar.take {} configOption (some file)
      = .ok (Found.after [(.config, some file)] {}) := by
  simp only [take, rival_mainGrammar, if_neg h]
  rfl

theorem takeArguments_attached {file : Text} (h : file ≠ separator) (argument : Text)
    (readings : List (Text × Reading)) :
    mainGrammar.takeArguments {} 0
        ((argument, .option configOption "--config" (some file)) :: readings)
      = mainGrammar.takeArguments (Found.after [(.config, some file)] {}) 0 readings := by
  have hspread : mainGrammar.spread configOption "--config" (some file)
      = .ok { options := [(configOption, some file)] } := by
    cases file <;> rfl
  simp only [takeArguments, hspread, takeAll, take_config h]

theorem takeArguments_apart {file : Text} (h : file ≠ separator) (argument : Text)
    (readings : List (Text × Reading)) :
    mainGrammar.takeArguments {} 0
        ((argument, .option configOption "--config" none) :: (file, .operand) :: readings)
      = mainGrammar.takeArguments (Found.after [(.config, some file)] {}) 0 readings := by
  have hspread : mainGrammar.spread configOption "--config" none
      = .ok { pending := some configOption } := rfl
  rw [takeArguments, hspread]
  simp only [List.nil_append, takeAll, take_config h]
  rfl

end Grammar

namespace AsksFor

variable {file : Text} {rest arguments : List Text}

/-- Asking for a settings file adds the file to what the rest asks for. -/
theorem parse (h : AsksFor file rest arguments) :
    mainGrammar.parse arguments
      = (mainGrammar.parse rest).map (Found.after [(.config, some file)]) := by
  cases h with
  | apart h =>
      have hoption : mainGrammar.readArgument "--config"
          = .ok (.option configOption "--config" none) := rfl
      refine Grammar.parse_after _ ?_ (Grammar.takeArguments_apart h.ne_separator "--config")
      rw [Grammar.readArguments_cons (by decide), hoption,
        Grammar.readArguments_cons h.ne_separator, Grammar.readArgument_of_isUndashed h]
      cases mainGrammar.readArguments rest <;> rfl
  | attached h =>
      have hoption : mainGrammar.readArgument ("--config=" ++ file)
          = .ok (.option configOption "--config" (some file)) := rfl
      refine Grammar.parse_after _ ?_ (Grammar.takeArguments_attached h ("--config=" ++ file))
      rw [Grammar.readArguments_cons (fun heq => by cases heq), hoption]

end AsksFor

namespace Invocation

variable {rest : List Text} {i : Invocation}

/-- An invocation is known from what was found before the command, and of that only
the settings file may change. -/
theorem exists_found_of_ofArguments (h : ofArguments rest = .ok i) :
    ∃ found, mainGrammar.parse rest = .ok found ∧ i.config = found.value? .config
      ∧ ∀ earlier arguments, mainGrammar.parse arguments = .ok (found.after earlier) →
          ofArguments arguments
            = .ok { i with config := (found.after earlier).value? .config } := by
  cases hparse : mainGrammar.parse rest with
  | error stop =>
      rw [ofArguments, hparse] at h
      cases h
  | ok found =>
      rw [ofArguments, hparse] at h
      simp only at h
      split at h
      · cases h
      · next command hcommand =>
          split at h
          · cases h
          · next inner hinner =>
              split at h
              · next hextras =>
                  cases h
                  refine ⟨found, rfl, rfl, fun earlier arguments hafter => ?_⟩
                  rw [ofArguments, hafter]
                  simp only [Found.after, hcommand, hinner, hextras]
                  rfl
              · cases h

/-- Asking for a settings file makes a difference for every file or for none. -/
theorem ofArguments_asksFor (h : ofArguments rest = .ok i) :
    (∀ file arguments, AsksFor file rest arguments →
        ofArguments arguments = .ok { i with config := some file })
      ∨ ∀ file arguments, AsksFor file rest arguments → ofArguments arguments = .ok i := by
  obtain ⟨found, hparse, hconfig, hresult⟩ := exists_found_of_ofArguments h
  have hafter : ∀ file arguments, AsksFor file rest arguments → ofArguments arguments
      = .ok { i with config := (found.after [(.config, some file)]).value? .config } := by
    intro file arguments hasks
    refine hresult _ _ ?_
    rw [hasks.parse, hparse]
    rfl
  cases hlookup : found.values.lookup .config with
  | none =>
      refine Or.inl fun file arguments hasks => ?_
      rw [hafter file arguments hasks, Found.value?, Found.after, List.lookup_append, hlookup]
      rfl
  | some value =>
      -- the rest asks for a file itself, and what is asked for last counts
      refine Or.inr fun file arguments hasks => ?_
      rw [hafter file arguments hasks, Found.value?, Found.after, List.lookup_append, hlookup]
      rw [Found.value?, hlookup] at hconfig
      exact congrArg _ (by rw [Option.some_or, ← hconfig])

end Invocation

/-! ## Two runs -/

theorem execute_eq_of_run {host : Host} {tree : FileTree} {a b : List Text} {i j : Invocation}
    (ha : Invocation.ofArguments a = .ok i) (hb : Invocation.ofArguments b = .ok j)
    (h : (i.action host).run host { tree } = (j.action host).run host { tree }) :
    execute host tree a = execute host tree b := by
  simp only [execute, ha, hb, h]

/-- Where the options leave nothing to the settings, a run with one settings file is
the same as one with another, as long as both files can be loaded: it ends in the
same way and leaves the same files. -/
theorem execute_overrides_settings {host : Host} {tree : FileTree} {fileA fileB : Text}
    {settingsA settingsB : Settings}
    (hA : Settings.ofFile (.ofText fileA) (tree.look (.ofText fileA) host.home) host.stack
      = .ok settingsA)
    (hB : Settings.ofFile (.ofText fileB) (tree.look (.ofText fileB) host.home) host.stack
      = .ok settingsB)
    {i : Invocation} (htask : i.task.IsSelfContained) :
    (∀ a b, Invocation.ofArguments a = .ok { i with config := some fileA } →
        Invocation.ofArguments b = .ok { i with config := some fileB } →
        execute host tree a = execute host tree b)
      ∧ ∀ rest a b, Invocation.ofArguments rest = .ok i → AsksFor fileA rest a →
          AsksFor fileB rest b → execute host tree a = execute host tree b := by
  have hsame : ∀ a b, Invocation.ofArguments a = .ok { i with config := some fileA } →
      Invocation.ofArguments b = .ok { i with config := some fileB } →
      execute host tree a = execute host tree b :=
    fun a b ha hb => execute_eq_of_run ha hb (Invocation.run_action_eq htask hA hB)
  refine ⟨hsame, fun rest a b hrest hasksA hasksB => ?_⟩
  rcases Invocation.ofArguments_asksFor hrest with hfile | hrest
  · exact hsame a b (hfile fileA a hasksA) (hfile fileB b hasksB)
  · exact execute_eq_of_run (hrest fileA a hasksA) (hrest fileB b hasksB) rfl

/-- An empty unit of indentation in place of one that the settings ask for. -/
theorem execute_overrides_settings_noIndent :
    let host : Host := "/"
    let tree : FileTree :=
      [(["a"], .file ("output.indent='x'".toList.map fun c => c.toNat.toUInt8)),
       (["b"], .file []), (["s"], .file [0x5B, 0x5D])]
    let rest : List Text := ["compile", "s", "-o", "r", "--indent", "", "--strict"]
    Settings.ofFile (.ofText "a") (tree.look (.ofText "a") host.home) host.stack
        = .ok { indent := "x" }
      ∧ Settings.ofFile (.ofText "b") (tree.look (.ofText "b") host.home) host.stack = .ok {}
      ∧ execute host tree ("--config" :: "a" :: rest)
        = execute host tree (("--config=" ++ "b") :: rest) := by
  intro host tree rest
  have hA : Settings.ofFile (.ofText "a") (tree.look (.ofText "a") host.home) host.stack
      = .ok { indent := "x" } := by
    decide +kernel
  have hB : Settings.ofFile (.ofText "b") (tree.look (.ofText "b") host.home) host.stack
      = .ok {} := by
    decide +kernel
  refine ⟨hA, hB, ?_⟩
  exact (execute_overrides_settings hA hB
    (i := { task := .compile (some "s") (some "r") (.unit []) true })
    ⟨rfl, rfl, by decide, rfl⟩).2 rest _ _ rfl (.apart (by decide)) (.attached (by decide))

end SecurityRules
