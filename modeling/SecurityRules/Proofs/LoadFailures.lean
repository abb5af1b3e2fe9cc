import SecurityRules.Proofs.LongIntegers
import SecurityRules.Proofs.ProgramOutputs

/-!
# Settings and schemas that cannot be loaded

Before a task does anything it loads its settings and its schema. Most of what
can be wrong with them is printed, and the task ends with the code one. Some
faults nothing provides for, and they end the program. `Settings.Unforeseen` and
`Schema.Unforeseen` list these by what the path leads to: a name that is too
long, a directory, bytes that are not UTF-8, a document that exhausts the stack, a
value where settings have a table, an integer of too many digits.

The lists are complete. `Settings.unforeseen_iff` and `Schema.unforeseen_iff` tie
them to loading, and `Invocation.trace_of_inputFault` to the rest of a run. What is
provided for can still not be told of if the message has lone halves and the console
cannot take them; `Tells` has both endings.
-/

namespace SecurityRules

/-! ## Settings -/

namespace Settings

/-- A document with something else where settings have a table. -/
def Misplaced (document : Toml.Table) : Prop :=
  ∃ name ∈ [Text.ofString "schema", Text.ofString "output"], ∃ value,
    document.get? name = some value ∧ ∀ entries, value ≠ .table entries

/-- What can stand in the place of settings without being provided for. A default
file that cannot be looked up is taken as missing. -/
inductive Unforeseen (host : Host) (tree : FileTree) (config : Option Text) : Prop
  | tooLong {file : Text} (hfile : given config = some file)
      (h : tree.look (.ofText file) host.home = .error .tooLong)
  | directory (h : tree.look (path config) host.home = .ok .directory)
  | tooDeep {bytes : Bytes} {characters : List Char}
      (hfile : tree.look (path config) host.home = .ok (.file bytes))
      (hdecode : Utf8.decode bytes = .ok characters)
      (h : host.stack.exhaustedBy .toml (Text.ofChars characters) = true)
  | misplaced {bytes : Bytes} {characters : List Char} {document : Toml.Table}
      (hfile : tree.look (path config) host.home = .ok (.file bytes))
      (hdecode : Utf8.decode bytes = .ok characters)
      (hstack : host.stack.exhaustedBy .toml (Text.ofChars characters) = false)
      (hread : Toml.read (Text.ofChars characters) = .ok document)
      (h : Misplaced document)

theorem topTable_eq_error_iff {name : Text} {document : Toml.Table} {fault : SettingsFault} :
    topTable name document = .error fault
      ↔ ∃ value, document.get? name = some value ∧ (∀ entries, value ≠ .table entries)
        ∧ fault = .notTable value := by
  unfold topTable
  split
  · next hget => simp [hget]
  · next entries hget => simp [hget]
  · next value hvalue hget =>
      simp only [hget, Option.some.injEq, exists_eq_left', Except.error.injEq]
      exact ⟨fun h => ⟨hvalue, h.symm⟩, fun h => h.2.symm⟩

/-- The faults of a document that are not printed. -/
theorem ofTable_unreported_iff {document : Toml.Table} :
    (∃ fault, ofTable document = .error fault
        ∧ (SettingsFileFault.invalid fault).isReported = false)
      ↔ Misplaced document := by
  unfold ofTable
  constructor
  · rintro ⟨fault, h, hunreported⟩
    cases hschema : topTable "schema" document with
    | error fault =>
        obtain ⟨value, hget, hnot, -⟩ := topTable_eq_error_iff.mp hschema
        exact ⟨"schema", List.mem_cons_self, value, hget, hnot⟩
    | ok schema =>
        cases houtput : topTable "output" document with
        | error fault =>
            obtain ⟨value, hget, hnot, -⟩ := topTable_eq_error_iff.mp houtput
            exact ⟨"output", List.mem_cons_of_mem _ List.mem_cons_self, value, hget, hnot⟩
        | ok output =>
            -- values of the wrong type are printed
            simp only [hschema, houtput, bind, Except.bind] at h
            split at h
            · cases h
            · cases h
              cases hunreported
  · -- the first table is looked up first, so its value is the one that is blamed
    rintro ⟨name, hname, value, hget, hnot⟩
    have herror : topTable name document = .error (.notTable value) :=
      topTable_eq_error_iff.mpr ⟨value, hget, hnot, rfl⟩
    cases hschema : topTable "schema" document with
    | error fault =>
        obtain ⟨value', -, -, rfl⟩ := topTable_eq_error_iff.mp hschema
        exact ⟨_, rfl, rfl⟩
    | ok schema =>
        simp only [List.mem_cons, List.not_mem_nil, or_false] at hname
        rcases hname with rfl | rfl
        · cases hschema.symm.trans herror
        · rw [herror]
          exact ⟨_, rfl, rfl⟩

theorem isReported_of_read {t : Text} {fault : Toml.Fault} (h : Toml.read t = .error fault) :
    (SettingsFileFault.invalid (.unread fault)).isReported = true := by
  unfold Toml.read at h
  simp only at h
  split at h
  · cases h
  · next stop _ =>
      cases h
      unfold Toml.Stop.fault
      split <;> rfl

/-- The faults of the bytes of settings that are not printed. -/
theorem ofBytes_unreported_iff {stack : Stack} {bytes : Bytes} :
    (∃ fault, ofBytes stack bytes = .error fault
        ∧ (SettingsFileFault.invalid fault).isReported = false)
      ↔ ∃ characters, Utf8.decode bytes = .ok characters
        ∧ (stack.exhaustedBy .toml (Text.ofChars characters) = true
          ∨ stack.exhaustedBy .toml (Text.ofChars characters) = false
            ∧ ∃ document, Toml.read (Text.ofChars characters) = .ok document
              ∧ Misplaced document) := by
  unfold ofBytes
  cases hdecode : Utf8.decode bytes with
  | error fault => simp [SettingsFileFault.isReported]
  | ok characters =>
      simp only [Except.ok.injEq, exists_eq_left']
      cases stack.exhaustedBy .toml (Text.ofChars characters) with
      | true => simp [SettingsFileFault.isReported]
      | false =>
          simp only [Bool.false_eq_true, if_false, false_or, true_and]
          cases hread : Toml.read (Text.ofChars characters) with
          | error fault => simp [isReported_of_read hread]
          | ok document => simp [ofTable_unreported_iff]

/-- The faults of a settings file that are not printed. -/
theorem ofFile_unreported_iff {path : Path} {node : Except PathFault Node} {stack : Stack} :
    (∃ fault, ofFile path node stack = .error fault ∧ fault.isReported = false)
      ↔ node = .error .tooLong ∨ node = .ok .directory
        ∨ ∃ bytes, node = .ok (.file bytes)
          ∧ ∃ fault, ofBytes stack bytes = .error fault
            ∧ (SettingsFileFault.invalid fault).isReported = false := by
  cases node with
  | error fault => cases fault <;> simp [ofFile, SettingsFileFault.isReported]
  | ok node =>
      cases node with
      | directory => simp [ofFile, SettingsFileFault.isReported]
      | file bytes =>
          simp only [ofFile, reduceCtorEq, Except.ok.injEq, Node.file.injEq, false_or,
            exists_eq_left']
          cases ofBytes stack bytes <;> simp

variable {host : Host} {tree : FileTree} {config : Option Text}

theorem unforeseen_iff_look :
    Unforeseen host tree config
      ↔ (∃ file, given config = some file ∧ tree.look (.ofText file) host.home = .error .tooLong)
        ∨ tree.look (path config) host.home = .ok .directory
        ∨ ∃ bytes, tree.look (path config) host.home = .ok (.file bytes)
          ∧ ∃ fault, ofBytes host.stack bytes = .error fault
            ∧ (SettingsFileFault.invalid fault).isReported = false := by
  simp only [ofBytes_unreported_iff]
  constructor
  · intro h
    cases h with
    | tooLong hfile h => exact Or.inl ⟨_, hfile, h⟩
    | directory h => exact Or.inr (Or.inl h)
    | tooDeep hfile hdecode h => exact Or.inr (Or.inr ⟨_, hfile, _, hdecode, Or.inl h⟩)
    | misplaced hfile hdecode hstack hread h =>
        exact Or.inr (Or.inr ⟨_, hfile, _, hdecode, Or.inr ⟨hstack, _, hread, h⟩⟩)
  · rintro (⟨file, hfile, h⟩ | h | ⟨bytes, hfile, characters, hdecode, h | h⟩)
    · exact .tooLong hfile h
    · exact .directory h
    · exact .tooDeep hfile hdecode h
    · obtain ⟨hstack, document, hread, h⟩ := h
      exact .misplaced hfile hdecode hstack hread h

/-- Settings fail to load unforeseen exactly where the tree shows it. -/
theorem unforeseen_iff :
    Unforeseen host tree config
      ↔ ∃ fault, find host tree config = .error fault ∧ fault.isReported = false := by
  rw [unforeseen_iff_look, find, path]
  cases given config with
  | some file => simp [ofFile_unreported_iff]
  | none =>
      simp only
      cases tree.look defaultPath host.home with
      | error fault => simp
      | ok node => simp [ofFile_unreported_iff]

end Settings

/-! ## Texts that hold no schema -/

namespace LoadFault

/-- A fault that is put down to the encoding of the schema. -/
def IsDeclared (fault : LoadFault) : Prop :=
  ∃ detail, fault.message = Text.ofString "Invalid schema encoding: " ++ detail

/-- All faults are, but for two. -/
theorem isDeclared_iff {fault : LoadFault} :
    fault.IsDeclared ↔ fault ≠ .tooDeep ∧ ∀ count, fault ≠ .unread (.tooManyDigits count) := by
  constructor
  · rintro ⟨detail, h⟩
    constructor
    · rintro rfl
      cases congrArg List.head? h
    · rintro count rfl
      cases congrArg List.head? h
  · rintro ⟨hdeep, hlong⟩
    cases fault with
    | unread cause =>
        cases cause with
        | malformed complaint place => exact ⟨_, rfl⟩
        | tooManyDigits count => exact absurd rfl (hlong count)
    | unencoded cause => exact ⟨_, rfl⟩
    | tooDeep => exact absurd rfl hdeep

end LoadFault

namespace Schema

/-- A text that is not read to its end, though nothing is wrong with what was read:
it exhausts the stack, or an integer of too many digits is met in it first. -/
inductive Unreadable (stack : Stack) (t : Text) : Prop
  | tooDeep (h : stack.exhaustedBy .json t = true)
  | longInteger {count : Nat} (hstack : stack.exhaustedBy .json t = false)
      (h : Json.MeetsLongInteger t count)

section

variable {stack : Stack} {t : Text}

theorem loadWithin_eq_tooDeep_iff :
    loadWithin stack t = .error .tooDeep ↔ stack.exhaustedBy .json t = true := by
  rw [loadWithin, load]
  split
  · next hexhausted => simp [hexhausted]
  · next hspared =>
      simp only [hspared]
      cases Json.read t with
      | error fault => simp
      | ok value =>
          simp only
          cases Schema.ofJson value <;> simp

theorem loadWithin_eq_tooManyDigits_iff {count : Nat} :
    loadWithin stack t = .error (.unread (.tooManyDigits count))
      ↔ stack.exhaustedBy .json t = false ∧ Json.MeetsLongInteger t count := by
  rw [← Json.read_eq_tooManyDigits_iff, loadWithin, load]
  split
  · next hexhausted => simp [hexhausted]
  · next hspared =>
      simp only [hspared, true_and]
      cases Json.read t with
      | error fault => simp
      | ok value =>
          simp only
          cases Schema.ofJson value <;> simp

/-- Such a text is refused in another way than others. -/
theorem unreadable_iff :
    Unreadable stack t ↔ ∃ fault, loadWithin stack t = .error fault ∧ ¬ fault.IsDeclared := by
  simp only [LoadFault.isDeclared_iff, not_and_or, not_not, not_forall]
  constructor
  · intro h
    cases h with
    | tooDeep h => exact ⟨_, loadWithin_eq_tooDeep_iff.mpr h, Or.inl rfl⟩
    | longInteger hstack h =>
        exact ⟨_, loadWithin_eq_tooManyDigits_iff.mpr ⟨hstack, h⟩, Or.inr ⟨_, rfl⟩⟩
  · rintro ⟨fault, hload, rfl | ⟨count, rfl⟩⟩
    · exact .tooDeep (loadWithin_eq_tooDeep_iff.mp hload)
    · obtain ⟨hstack, h⟩ := loadWithin_eq_tooManyDigits_iff.mp hload
      exact .longInteger hstack h

end

end Schema

/-! ## Schemas -/

namespace Schema

/-- What can stand in the place of a schema without being provided for. -/
inductive Unforeseen (host : Host) (tree : FileTree) (file : Text) : Prop
  | tooLong (h : tree.look (.ofText file) host.home = .error .tooLong)
  | directory (h : tree.look (.ofText file) host.home = .ok .directory)
  | undecoded {bytes : Bytes} {fault : Utf8.Fault}
      (hfile : tree.look (.ofText file) host.home = .ok (.file bytes))
      (h : Utf8.decode bytes = .error fault)
  | unreadable {bytes : Bytes} {characters : List Char}
      (hfile : tree.look (.ofText file) host.home = .ok (.file bytes))
      (hdecode : Utf8.decode bytes = .ok characters)
      (h : Unreadable host.stack (Text.ofChars characters).plainBreaks)

theorem isReported_unloaded_iff {fault : LoadFault} :
    (SchemaFileFault.unloaded fault).isReported ↔ fault.IsDeclared := by
  rw [LoadFault.isDeclared_iff]
  cases fault with
  | unread cause => cases cause <;> simp [SchemaFileFault.isReported]
  | unencoded cause => simp [SchemaFileFault.isReported]
  | tooDeep => simp [SchemaFileFault.isReported]

/-- The faults of a schema file that are not printed. -/
theorem ofFile_unreported_iff {path : Path} {node : Except PathFault Node} {stack : Stack} :
    (∃ fault, ofFile path node stack = .error fault ∧ fault.isReported = false)
      ↔ node = .error .tooLong ∨ node = .ok .directory
        ∨ ∃ bytes, node = .ok (.file bytes) ∧ ((∃ fault, Utf8.decode bytes = .error fault)
          ∨ ∃ characters, Utf8.decode bytes = .ok characters
            ∧ Unreadable stack (Text.ofChars characters).plainBreaks) := by
  cases node with
  | error fault => cases fault <;> simp [ofFile, SchemaFileFault.isReported]
  | ok node =>
      cases node with
      | directory => simp [ofFile, SchemaFileFault.isReported]
      | file bytes =>
          simp only [ofFile, reduceCtorEq, Except.ok.injEq, Node.file.injEq, false_or,
            exists_eq_left']
          cases Utf8.decode bytes with
          | error fault => simp [SchemaFileFault.isReported]
          | ok characters =>
              simp only [reduceCtorEq, exists_false, false_or, Except.ok.injEq, exists_eq_left']
              rw [unreadable_iff]
              cases loadWithin stack (Text.ofChars characters).plainBreaks with
              | ok s => simp
              | error fault => simp [← isReported_unloaded_iff]

/-- A schema fails to load unforeseen exactly where the tree shows it. -/
theorem unforeseen_iff {host : Host} {tree : FileTree} {file : Text} :
    Unforeseen host tree file
      ↔ ∃ fault, loadFile host tree file = .error fault ∧ fault.isReported = false := by
  rw [loadFile, ofFile_unreported_iff]
  constructor
  · intro h
    cases h with
    | tooLong h => exact Or.inl h
    | directory h => exact Or.inr (Or.inl h)
    | undecoded hfile h => exact Or.inr (Or.inr ⟨_, hfile, Or.inl ⟨_, h⟩⟩)
    | unreadable hfile hdecode h => exact Or.inr (Or.inr ⟨_, hfile, Or.inr ⟨_, hdecode, h⟩⟩)
  · rintro (h | h | ⟨bytes, hfile, ⟨fault, h⟩ | ⟨characters, hdecode, h⟩⟩)
    · exact .tooLong h
    · exact .directory h
    · exact .undecoded hfile h
    · exact .unreadable hfile hdecode h

end Schema

/-! ## The input of a task -/

namespace Invocation

/-- The file that a task takes its schema from, once its settings are loaded. -/
def schemaFile (host : Host) (tree : FileTree) (i : Invocation) :
    Except SettingsFileFault Text :=
  match i.task with
  | .compile schema _ _ _ | .check schema | .models schema =>
      (Settings.find host tree i.config).map fun settings =>
        (given schema).getD settings.schemaFile
  | .convert file _ => .ok file

/-- Why the settings or the schema of a task cannot be loaded, if they cannot. -/
def inputFault? (host : Host) (tree : FileTree) (i : Invocation) : Option InputFault :=
  match i.schemaFile host tree with
  | .error fault => some (.settings fault)
  | .ok file =>
      match Schema.loadFile host tree file with
      | .error fault => some (.schema fault)
      | .ok _ => none

/-- A task that needs settings or a schema where nothing is provided for what is
there instead. -/
inductive Unforeseen (host : Host) (tree : FileTree) (i : Invocation) : Prop
  | settings (htask : ∀ file output, i.task ≠ .convert file output)
      (h : Settings.Unforeseen host tree i.config)
  | schema {file : Text} (hfile : i.schemaFile host tree = .ok file)
      (h : Schema.Unforeseen host tree file)

section

variable {host : Host} {tree : FileTree} {i : Invocation}

theorem schemaFile_eq_error_iff {fault : SettingsFileFault} :
    i.schemaFile host tree = .error fault
      ↔ (∀ file output, i.task ≠ .convert file output)
        ∧ Settings.find host tree i.config = .error fault := by
  unfold schemaFile
  cases i.task with
  | convert file output => simp
  | _ => cases Settings.find host tree i.config <;> simp [Except.map]

/-- A task fails to load unforeseen exactly where the tree shows it. -/
theorem unforeseen_iff :
    i.Unforeseen host tree
      ↔ ∃ fault, i.inputFault? host tree = some fault ∧ fault.isReported = false := by
  unfold inputFault?
  constructor
  · intro h
    cases h with
    | settings htask h =>
        obtain ⟨fault, hfind, hfault⟩ := Settings.unforeseen_iff.mp h
        rw [schemaFile_eq_error_iff.mpr ⟨htask, hfind⟩]
        exact ⟨.settings fault, rfl, hfault⟩
    | schema hfile h =>
        obtain ⟨fault, hload, hfault⟩ := Schema.unforeseen_iff.mp h
        simp only [hfile, hload]
        exact ⟨.schema fault, rfl, hfault⟩
  · rintro ⟨fault, h, hfault⟩
    split at h
    · next fault' hfile =>
        cases h
        obtain ⟨htask, hfind⟩ := schemaFile_eq_error_iff.mp hfile
        exact .settings htask (Settings.unforeseen_iff.mpr ⟨fault', hfind, hfault⟩)
    · next file hfile =>
        split at h
        · next fault' hload =>
            cases h
            exact .schema hfile (Schema.unforeseen_iff.mpr ⟨fault', hload, hfault⟩)
        · cases h

/-- For a task that has settings, its faults are those of `loadInput`. -/
theorem inputFault?_eq_some_iff (schema : Option Text) {fault : InputFault}
    (hfile : i.schemaFile host tree = (Settings.find host tree i.config).map
      fun settings => (given schema).getD settings.schemaFile) :
    i.inputFault? host tree = some fault
      ↔ loadInput host tree i.config schema = .error fault := by
  unfold inputFault? loadInput
  rw [hfile]
  cases Settings.find host tree i.config with
  | error fault => simp [Except.map]
  | ok settings =>
      simp only [Except.map]
      cases Schema.loadFile host tree ((given schema).getD settings.schemaFile) <;> simp

theorem inputFault?_convert_eq_some_iff {file : Text} {output : Option Text} {fault : InputFault}
    (htask : i.task = .convert file output) :
    i.inputFault? host tree = some fault
      ↔ ∃ cause, Schema.loadFile host tree file = .error cause ∧ fault = .schema cause := by
  simp only [inputFault?, schemaFile, htask]
  cases Schema.loadFile host tree file <;> simp [eq_comm]

/-- A task that cannot load what it needs ends with that fault. -/
theorem trace_of_inputFault {fault : InputFault} (h : i.inputFault? host tree = some fault) :
    (i.action host).trace host tree = (fault.ending host.console).trace host tree := by
  cases htask : i.task with
  | compile schema output indent strict =>
      rw [trace_compile htask, (inputFault?_eq_some_iff schema (by rw [schemaFile, htask])).mp h]
  | check schema =>
      rw [trace_check htask, (inputFault?_eq_some_iff schema (by rw [schemaFile, htask])).mp h]
  | models schema =>
      rw [trace_models htask, (inputFault?_eq_some_iff schema (by rw [schemaFile, htask])).mp h]
  | convert file output =>
      obtain ⟨cause, hload, rfl⟩ := (inputFault?_convert_eq_some_iff htask).mp h
      rw [trace_convert htask, hload]

/-- A console has faults of its own. -/
theorem printed_ne_failure (t : Text) (code : ExitCode) (fault : InputFault) :
    (Action.printed host t code).1 ≠ .error fault.failure := by
  unfold Action.printed
  cases host.console.refused? t with
  | none => exact fun h => by cases h
  | some halves => cases fault <;> exact fun h => by cases h

theorem trace_delivery_ne_failure (document : Text) (output : Option Text) (fault : InputFault) :
    ((delivery host.console document output).trace host tree).1 ≠ .error fault.failure := by
  cases output with
  | none =>
      rw [trace_delivery_none]
      exact printed_ne_failure _ _ _
  | some file =>
      rw [trace_delivery_some]
      split
      · cases fault <;> nofun
      · split
        · cases fault <;> nofun
        · exact printed_ne_failure _ _ _

theorem exists_loadInput (schema : Option Text)
    (hfile : i.schemaFile host tree = (Settings.find host tree i.config).map
      fun settings => (given schema).getD settings.schemaFile)
    (h : i.inputFault? host tree = none) :
    ∃ settings s, loadInput host tree i.config schema = .ok (settings, s) := by
  cases hload : loadInput host tree i.config schema with
  | error fault => cases h.symm.trans ((inputFault?_eq_some_iff schema hfile).mpr hload)
  | ok input => exact ⟨_, _, rfl⟩

/-- A task that can load what it needs does not fail as one that cannot. -/
theorem trace_ne_failure (h : i.inputFault? host tree = none) (fault : InputFault) :
    ((i.action host).trace host tree).1 ≠ .error fault.failure := by
  cases htask : i.task with
  | compile schema output indent strict =>
      obtain ⟨settings, s, hload⟩ := exists_loadInput schema (by rw [schemaFile, htask]) h
      rw [trace_compile htask, hload]
      -- it is refused, has no unit to indent with, or is delivered
      simp only
      split
      · exact printed_ne_failure _ _ _
      · split
        · cases fault <;> nofun
        · exact trace_delivery_ne_failure _ _ _
  | check schema =>
      obtain ⟨settings, s, hload⟩ := exists_loadInput schema (by rw [schemaFile, htask]) h
      rw [trace_check htask, hload]
      simp only
      split
      · split
        · exact printed_ne_failure _ _ _
        · nofun
      · exact printed_ne_failure _ _ _
  | models schema =>
      obtain ⟨settings, s, hload⟩ := exists_loadInput schema (by rw [schemaFile, htask]) h
      rw [trace_models htask, hload]
      simp only
      split
      · cases fault <;> nofun
      · split
        · cases fault <;> nofun
        · exact printed_ne_failure _ _ _
  | convert file output =>
      rw [trace_convert htask]
      cases hload : Schema.loadFile host tree file with
      | error cause =>
          cases h.symm.trans ((inputFault?_convert_eq_some_iff htask).mpr ⟨cause, hload, rfl⟩)
      | ok s => exact trace_delivery_ne_failure _ _ _

end

end Invocation

/-! ## Runs -/

/-- How a run ends that has a fault to tell of: with the code one, once it has told of
it, or over the lone halves in what it was about to tell. -/
inductive Tells (host : Host) (message : Text) (run : Outcome × World) : Prop
  | told (htaken : host.console.refused? (host.console.errorPage message) = none)
      (hcode : run.1 = .finished 1) (hreports : Reports host.console message run.2.printed)
  | refused {halves : Utf8.LoneHalves}
      (hrefused : host.console.refused? (host.console.errorPage message) = some halves)
      (hfailed : run.1 = .failed (.unwritten standardOutput (.loneHalves halves)))
      (hprinted : run.2.printed = [])

theorem Tells.reports {host : Host} {message : Text} {run : Outcome × World}
    (h : Tells host message run) (hwhole : host.console.takesHalves ∨ message.IsWhole) :
    run.1 = .finished 1 ∧ Reports host.console message run.2.printed := by
  cases h with
  | told _ hcode hreports => exact ⟨hcode, hreports⟩
  | refused hrefused _ _ => cases (refused?_errorPage _ _ hwhole).symm.trans hrefused

section

variable {host : Host} {tree : FileTree} {arguments : List Text} {i : Invocation}
  {fault : InputFault}

theorem execute_of_reported (hi : Invocation.ofArguments arguments = .ok i)
    (h : i.inputFault? host tree = some fault) (hreported : fault.isReported) :
    Tells host fault.message (execute host tree arguments)
      ∧ (execute host tree arguments).2.tree = tree := by
  have htrace := (Invocation.trace_of_inputFault h).trans (fault.trace_ending host tree)
  rw [if_pos hreported, Action.printed] at htrace
  cases htaken : host.console.refused? (host.console.errorPage fault.message) with
  | none =>
      rw [htaken] at htrace
      obtain ⟨hcode, hprinted, htree⟩ := execute_of_printed hi htrace
      exact ⟨.told htaken hcode (hprinted ▸ reports_errorPage _ _), htree⟩
  | some halves =>
      rw [htaken] at htrace
      obtain ⟨hfailed, hprinted, htree⟩ := execute_of_failed hi htrace
      exact ⟨.refused htaken hfailed hprinted, htree⟩

theorem execute_of_unreported (hi : Invocation.ofArguments arguments = .ok i)
    (h : i.inputFault? host tree = some fault) (hunreported : fault.isReported = false) :
    (execute host tree arguments).1 = .failed fault.failure
      ∧ (execute host tree arguments).2.printed = []
      ∧ (execute host tree arguments).2.tree = tree := by
  have htrace := (Invocation.trace_of_inputFault h).trans (fault.trace_ending host tree)
  rw [hunreported, if_neg Bool.false_ne_true] at htrace
  exact execute_of_failed hi htrace

theorem Invocation.unforeseen_iff_of_inputFault
    (h : i.inputFault? host tree = some fault) :
    i.Unforeseen host tree ↔ fault.isReported = false := by
  rw [Invocation.unforeseen_iff]
  constructor
  · rintro ⟨other, hother, hunreported⟩
    cases h.symm.trans hother
    exact hunreported
  · exact fun hunreported => ⟨fault, h, hunreported⟩

theorem Invocation.not_unforeseen_of_reported (h : i.inputFault? host tree = some fault)
    (hreported : fault.isReported = true) : ¬ i.Unforeseen host tree := by
  rw [Invocation.unforeseen_iff_of_inputFault h, hreported]
  exact Bool.noConfusion

end

/-- Where the settings or the schema of a task cannot be loaded, the program says so
and ends with the code one, unless it meets something that is not provided for.
Then it fails, without a word, and it fails in this way only then. No file changes.
What it would say may have lone halves that the console cannot take, and that is the
one other way to fail. -/
theorem execute_reports_unless_unforeseen {host : Host} {tree : FileTree}
    {arguments : List Text} {i : Invocation} (hi : Invocation.ofArguments arguments = .ok i) :
    (∀ fault, i.inputFault? host tree = some fault →
      (execute host tree arguments).2.tree = tree
        ∧ (¬ i.Unforeseen host tree → Tells host fault.message (execute host tree arguments)
          ∧ (host.console.takesHalves ∨ fault.message.IsWhole →
            (execute host tree arguments).1 = .finished 1
              ∧ Reports host.console fault.message (execute host tree arguments).2.printed))
        ∧ (i.Unforeseen host tree →
          (execute host tree arguments).1 = .failed fault.failure
            ∧ (execute host tree arguments).2.printed = []))
      ∧ (i.Unforeseen host tree
        ↔ ∃ fault : InputFault, (execute host tree arguments).1 = .failed fault.failure) := by
  refine ⟨fun fault hfault => ?_, ?_⟩
  · have hunforeseen := Invocation.unforeseen_iff_of_inputFault hfault
    cases hreported : fault.isReported with
    | true =>
        obtain ⟨htells, htree⟩ := execute_of_reported hi hfault hreported
        refine ⟨htree, fun _ => ⟨htells, htells.reports⟩, fun h => ?_⟩
        cases hreported.symm.trans (hunforeseen.mp h)
    | false =>
        obtain ⟨hfailed, hprinted, htree⟩ := execute_of_unreported hi hfault hreported
        exact ⟨htree, fun h => absurd (hunforeseen.mpr hreported) h, fun _ => ⟨hfailed, hprinted⟩⟩
  · constructor
    · intro h
      obtain ⟨fault, hfault, hunreported⟩ := Invocation.unforeseen_iff.mp h
      exact ⟨fault, (execute_of_unreported hi hfault hunreported).1⟩
    · rintro ⟨fault, hfailed⟩
      rw [execute_eq_failed_of_ok hi] at hfailed
      cases hfault : i.inputFault? host tree with
      | none => exact absurd hfailed (Invocation.trace_ne_failure hfault fault)
      | some cause =>
          rw [Invocation.unforeseen_iff_of_inputFault hfault]
          by_contra hreported
          rw [Invocation.trace_of_inputFault hfault, cause.trace_ending,
            if_pos (by simpa using hreported)] at hfailed
          exact Invocation.printed_ne_failure _ _ _ hfailed

/-- A stack on which two brackets may be open. -/
def shallowStack : Stack where
  room := 2
  exhaustedBy _ t := decide (2 < t.openings)
  spares _ _ h := decide_eq_false (Nat.not_lt.mpr h)

/-- A directory in the place of the schema is not provided for, nor are three brackets
where only two can be open. A file that is not there is provided for, but half a
character in its name cannot be told to a terminal. -/
theorem execute_reports_unless_unforeseen_directory :
    let tree : FileTree := [(["d"], .directory), (["n"], .file [0x5B, 0x5B, 0x5B])]
    let shallow : Host := { directory := "/", stack := shallowStack }
    let terminal : Host := { directory := "/", console := { takesHalves := false } }
    (execute "/" tree ["check", "d"]).1 = .failed (.schemaFile (.isDirectory "d"))
      ∧ (execute shallow tree ["check", "n"]).1 = .failed (.schemaFile (.unloaded .tooDeep))
      ∧ (execute "/" tree ["check", "e"]).1 = .finished 1
      ∧ (execute "/" tree ["check", "e"]).2.printed = "Error: Schema file not found: e\n"
      ∧ ∃ halves, (execute terminal tree ["check", [.surrogate 0]]).1
          = .failed (.unwritten standardOutput (.loneHalves halves)) := by
  intro tree shallow terminal
  have hdirectory : Invocation.inputFault? "/" tree { task := .check (some "d") }
      = some (.schema (.isDirectory "d")) := rfl
  have hdeep : Invocation.inputFault? shallow tree { task := .check (some "n") }
      = some (.schema (.unloaded .tooDeep)) := rfl
  have hmissing : Invocation.inputFault? "/" tree { task := .check (some "e") }
      = some (.schema (.missing "e")) := rfl
  have hhalf : Invocation.inputFault? terminal tree { task := .check (some [.surrogate 0]) }
      = some (.schema (.missing [.surrogate 0])) := rfl
  have hd := (execute_reports_unless_unforeseen
    (rfl : Invocation.ofArguments ["check", "d"] = _)).1 _ hdirectory
  have hn := (execute_reports_unless_unforeseen
    (rfl : Invocation.ofArguments ["check", "n"] = _)).1 _ hdeep
  have he := (execute_reports_unless_unforeseen
    (rfl : Invocation.ofArguments ["check", "e"] = _)).1 _ hmissing
  have hs := (execute_reports_unless_unforeseen
    (rfl : Invocation.ofArguments ["check", [.surrogate 0]] = _)).1 _ hhalf
  have hprovided := Invocation.not_unforeseen_of_reported hmissing rfl
  have hprovided' := Invocation.not_unforeseen_of_reported hhalf rfl
  obtain ⟨hcode, hreports⟩ := (he.2.1 hprovided).2 (Or.inl rfl)
  obtain ⟨htells, -⟩ := hs.2.1 hprovided'
  refine ⟨(hd.2.2 (.schema rfl (.directory rfl))).1,
    (hn.2.2 (.schema rfl (.unreadable rfl rfl (.tooDeep rfl)))).1, hcode, ?_, ?_⟩
  · refine hreports.literal (by decide) (by decide) (.of_noPictures (fun _ => rfl) (by decide) ?_)
    exact ⟨by decide +kernel, by decide, by decide +kernel⟩
  · cases htells with
    | refused _ hfailed _ => exact ⟨_, hfailed⟩
    | told htaken _ _ =>
        -- the half is in what was to be shown
        let message : Text := (SchemaFileFault.missing [.surrogate 0]).message
        have hpage := (reports_errorPage terminal.console message).literal (by decide) (by decide)
          (.of_noPictures (fun _ => rfl) (by decide)
            ⟨by decide +kernel, by decide, by decide +kernel⟩)
        have htaken : terminal.console.refused? (terminal.console.errorPage message) = none :=
          htaken
        rw [hpage, Console.refused?_eq_none_iff] at htaken
        exact absurd htaken (by decide)

/-- So a task may fail to load its schema and not end with the code one. -/
theorem execute_check_directory_fails :
    ∃ (host : Host) (tree : FileTree) (arguments : List Text) (i : Invocation)
      (fault : InputFault), Invocation.ofArguments arguments = .ok i
        ∧ i.inputFault? host tree = some fault
        ∧ (execute host tree arguments).1 ≠ .finished 1 := by
  have hi : Invocation.ofArguments ["check", "d"] = .ok { task := .check (some "d") } := rfl
  have hfault : Invocation.inputFault? "/" [(["d"], .directory)] { task := .check (some "d") }
      = some (.schema (.isDirectory "d")) := rfl
  refine ⟨_, _, _, _, _, hi, hfault, ?_⟩
  rw [(execute_of_unreported hi hfault rfl).1]
  nofun

/-! ## Runs that reach a text -/

/-- A task whose schema file holds a text, and so gets that far. -/
def Invocation.Reaches (host : Host) (tree : FileTree) (i : Invocation) (t : Text) : Prop :=
  ∃ file bytes characters, i.schemaFile host tree = .ok file
    ∧ tree.look (.ofText file) host.home = .ok (.file bytes) ∧ Utf8.decode bytes = .ok characters
    ∧ (Text.ofChars characters).plainBreaks = t

theorem Invocation.Reaches.inputFault? {host : Host} {tree : FileTree} {i : Invocation} {t : Text}
    (h : i.Reaches host tree t) {fault : LoadFault}
    (hload : Schema.loadWithin host.stack t = .error fault) :
    i.inputFault? host tree = some (.schema (.unloaded fault)) := by
  obtain ⟨file, bytes, characters, hfile, hlook, hdecode, rfl⟩ := h
  simp only [Invocation.inputFault?, hfile, Schema.loadFile, hlook, Schema.ofFile, hdecode, hload]

/-- An array of one integer that is too long. -/
theorem Json.meetsLongInteger_ones {n : Nat} (h : maxIntegerDigits < n) :
    MeetsLongInteger ("[" ++ (Text.ofChars (List.replicate n '1') ++ "]")) n := by
  have hbefore : AwaitsValue "[" := by
    refine ⟨"]", .array [.array []], ?_, by decide +kernel⟩
    intro c hc
    exact Or.inl (List.mem_singleton.mp hc)
  have hdigits : IsDigits (List.replicate n '1') := by
    refine ⟨by simp; omega, fun c hc => ?_⟩
    rw [List.eq_of_mem_replicate hc]
    rfl
  have hlead : (List.replicate n '1').head? ≠ some '0' := by
    rw [List.head?_replicate]
    split <;> simp
  have hafter : ¬ Text.ContinuesInteger "]" := by
    rw [Numeral.not_continuesInteger_iff]
    refine ⟨Text.noDigitAhead_cons_iff.mpr rfl, rfl, rfl⟩
  have hlong : maxIntegerDigits < (List.replicate n '1').length := by rwa [List.length_replicate]
  have hmeets := MeetsLongInteger.intro false hbefore hdigits hlead hlong hafter
  rwa [List.length_replicate] at hmeets

/-- A text gives a schema, or a fault that is put down to its encoding and printed by
every task that meets it; unless the text exhausts the stack, or an integer of too many
digits is met in it first. These two faults are others, and they end the program. So do
lone halves in what is printed, on a console that cannot take them. A text that opens
few brackets does not exhaust the stack. -/
theorem Schema.load_refuses_as_declared (stack : Stack) (t : Text) :
    (∀ fault, Schema.loadWithin stack t = .error fault →
      (fault.IsDeclared ↔ ¬ Unreadable stack t))
      ∧ (Schema.loadWithin stack t = .error .tooDeep ↔ stack.exhaustedBy .json t = true)
      ∧ (∀ count, Schema.loadWithin stack t = .error (.unread (.tooManyDigits count))
        ↔ stack.exhaustedBy .json t = false ∧ Json.MeetsLongInteger t count)
      ∧ (t.openings ≤ stack.room → Schema.loadWithin stack t = Schema.load t)
      ∧ ∀ (host : Host) tree arguments i fault, host.stack = stack →
        Invocation.ofArguments arguments = .ok i → i.Reaches host tree t →
        Schema.loadWithin stack t = .error fault →
        (¬ Unreadable stack t → Tells host fault.message (execute host tree arguments)
          ∧ (host.console.takesHalves ∨ fault.message.IsWhole →
            (execute host tree arguments).1 = .finished 1
              ∧ Reports host.console fault.message (execute host tree arguments).2.printed))
        ∧ (Unreadable stack t →
          (execute host tree arguments).1 = .failed (.schemaFile (.unloaded fault))
            ∧ (execute host tree arguments).2.printed = []) := by
  have hdeclared : ∀ fault, Schema.loadWithin stack t = .error fault →
      (fault.IsDeclared ↔ ¬ Unreadable stack t) := by
    intro fault hload
    rw [unreadable_iff, hload]
    simp
  refine ⟨hdeclared, loadWithin_eq_tooDeep_iff, fun count => loadWithin_eq_tooManyDigits_iff,
    fun hroom => ?_, ?_⟩
  · rw [loadWithin, stack.spares .json t hroom]
    rfl
  · rintro host tree arguments i fault rfl hi hreaches hload
    have hfault := hreaches.inputFault? hload
    have hreported := isReported_unloaded_iff.trans (hdeclared fault hload)
    constructor
    · intro h
      have htells := (execute_of_reported hi hfault (hreported.mpr h)).1
      exact ⟨htells, htells.reports⟩
    · intro h
      have hunreported := Bool.eq_false_iff.mpr fun htrue => hreported.mp htrue h
      obtain ⟨hfailed, hprinted, -⟩ := execute_of_unreported hi hfault hunreported
      exact ⟨hfailed, hprinted⟩

/-- An integer of 4301 digits is refused as such, and three brackets where only two can
be open. An empty file is refused as no schema. -/
theorem Schema.load_refuses_as_declared_ones :
    Schema.loadWithin {} ("[" ++ (Text.ofChars (List.replicate 4301 '1') ++ "]"))
        = .error (.unread (.tooManyDigits 4301))
      ∧ Schema.loadWithin shallowStack "[[[" = .error .tooDeep
      ∧ (execute "/" [(["s"], .file [])] ["check", "s"]).1 = .finished 1 := by
  refine ⟨?_, ?_, ?_⟩
  · rw [(Schema.load_refuses_as_declared _ _).2.2.1]
    exact ⟨rfl, Json.meetsLongInteger_ones (by decide)⟩
  · rw [(Schema.load_refuses_as_declared _ _).2.1]
    rfl
  · obtain ⟨hdeclared, -, -, -, hrun⟩ := Schema.load_refuses_as_declared {} []
    have hload : Schema.loadWithin {} [] = .error (.unread (.malformed .value ⟨1, 1, 0⟩)) := by
      decide +kernel
    have hreadable := (hdeclared _ hload).mp ⟨_, rfl⟩
    have hreaches : Invocation.Reaches "/" [(["s"], .file [])] { task := .check (some "s") } [] :=
      ⟨"s", [], [], rfl, rfl, rfl, rfl⟩
    exact (((hrun _ _ ["check", "s"] _ _ rfl rfl hreaches hload).1 hreadable).2 (Or.inl rfl)).1

/-- So not every fault of a text is put down to its encoding. -/
theorem Schema.load_longInteger_undeclared :
    ∃ t fault, Schema.load t = .error fault ∧ ¬ LoadFault.IsDeclared fault := by
  have hmeets : Json.MeetsLongInteger _ 4301 := Json.meetsLongInteger_ones (by decide)
  have hsame : ∀ t, Schema.loadWithin {} t = Schema.load t := fun _ => rfl
  have hload := (@loadWithin_eq_tooManyDigits_iff {} _ _).mpr ⟨rfl, hmeets⟩
  refine ⟨_, _, (hsame _).symm.trans hload, fun h => ?_⟩
  exact (LoadFault.isDeclared_iff.mp h).2 _ rfl

end SecurityRules
