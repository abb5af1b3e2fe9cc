import SecurityRules.Command.Run
import SecurityRules.Proofs.ErrorReports

/-!
# What the program puts out

An action reaches the world in two ways: it writes files and it prints. Its
trace on a file tree lists these steps in order, together with how it ends, and
says nothing about what was logged. The trace is all that counts of a run:
`Action.run_eq_trace` reads the result, the files and the printed text off it.
What the console cannot take is not printed, and ends the action.

A task loads its settings and its schema before anything else. What it finds is
computed by `loadInput`, and each task has an equation that gives its trace from
there. Statements about the program are derived from these four equations.
-/

namespace SecurityRules

/-! ## Traces of actions -/

/-- A step that reaches the world: a text for a file, or one for the terminal. -/
inductive Output where
  | write (path : Path) (content : Text)
  | print (t : Text)
  deriving DecidableEq

namespace Output

/-- The files after a step. -/
def apply (host : Host) (tree : FileTree) : Output → FileTree
  | write path content => (tree.write host.home path content).2
  | print _ => tree

/-- What a step shows on the terminal. -/
def shown : Output → Text
  | write _ _ => []
  | print t => t

end Output

namespace Action

variable {α β : Type}

/-- How an action ends on a file tree, and what it puts out until then. A write
that fails is a step as well, and the last one. -/
def trace (host : Host) (tree : FileTree) : Action α → Except Failure α × List Output
  | done result => (.ok result, [])
  | fail failure => (.error failure, [])
  | inspect path next => (next (tree.look path host.home)).trace host tree
  | write path content next =>
      match tree.write host.home path content with
      | (.ok (), tree) =>
          ((next.trace host tree).1, .write path content :: (next.trace host tree).2)
      | (.error fault, _) => (.error (.unwritten path fault), [.write path content])
  | print t next =>
      match host.console.refused? t with
      | none => ((next.trace host tree).1, .print t :: (next.trace host tree).2)
      | some halves => (.error (.unwritten standardOutput (.loneHalves halves)), [])
  | log _ next => next.trace host tree

/-- A run is known from its trace. -/
theorem run_eq_trace (host : Host) (a : Action α) (w : World) :
    (a.run host w).1 = (a.trace host w.tree).1
      ∧ (a.run host w).2.tree = (a.trace host w.tree).2.foldl (Output.apply host) w.tree
      ∧ (a.run host w).2.printed
        = w.printed ++ (a.trace host w.tree).2.flatMap Output.shown := by
  induction a generalizing w with
  | done x => exact ⟨rfl, rfl, (List.append_nil _).symm⟩
  | fail failure => exact ⟨rfl, rfl, (List.append_nil _).symm⟩
  | inspect path next ih => exact ih _ w
  | write path content next ih =>
      rw [run_write]
      simp only [trace]
      rcases hwrite : w.tree.write host.home path content with ⟨result, tree⟩
      cases result with
      | ok done =>
          obtain ⟨hresult, htree, hprinted⟩ := ih { w with tree }
          exact ⟨hresult, by simp only [htree, List.foldl_cons, Output.apply, hwrite], hprinted⟩
      | error fault =>
          exact ⟨rfl, by simp only [List.foldl_cons, List.foldl_nil, Output.apply, hwrite],
            (List.append_nil _).symm⟩
  | print t next ih =>
      rw [run_print]
      simp only [trace]
      cases host.console.refused? t with
      | none =>
          obtain ⟨hresult, htree, hprinted⟩ := ih { w with printed := w.printed ++ t }
          refine ⟨hresult, htree, hprinted.trans ?_⟩
          simp only [List.flatMap_cons, Output.shown, List.append_assoc]
      | some halves => exact ⟨rfl, rfl, (List.append_nil _).symm⟩
  | log event next ih => exact ih { w with events := w.events ++ [event] }

theorem trace_bind (host : Host) (a : Action α) (f : α → Action β) (tree : FileTree) :
    (a >>= f).trace host tree = match a.trace host tree with
      | (.ok x, outputs) =>
          (((f x).trace host (outputs.foldl (Output.apply host) tree)).1,
            outputs ++ ((f x).trace host (outputs.foldl (Output.apply host) tree)).2)
      | (.error failure, outputs) => (.error failure, outputs) := by
  show (a.bind f).trace host tree = _
  induction a generalizing tree with
  | done x => rfl
  | fail failure => rfl
  | inspect path next ih => exact ih _ tree
  | write path content next ih =>
      simp only [Action.bind, trace]
      rcases hwrite : tree.write host.home path content with ⟨result, tree'⟩
      cases result with
      | ok done =>
          simp only [ih]
          split <;> simp [Output.apply, *]
      | error fault => rfl
  | print t next ih =>
      simp only [Action.bind, trace, ih]
      cases host.console.refused? t with
      | none =>
          simp only
          split <;> simp [Output.apply, *]
      | some halves => rfl
  | log event next ih => exact ih tree

section

variable {host : Host} {tree : FileTree}

/-- What neither ends an action nor puts anything out leaves the rest as it is. -/
theorem trace_bind_of_silent {a : Action α} {x : α} (h : a.trace host tree = (.ok x, []))
    (f : α → Action β) : (a >>= f).trace host tree = (f x).trace host tree := by
  rw [trace_bind, h]
  rfl

theorem trace_note (verbose : Bool) (event : Event) :
    (note verbose event).trace host tree = (.ok (), []) := by
  unfold note
  split <;> rfl

theorem trace_forIn {γ : Type} {f : γ → β → Action (ForInStep β)}
    (h : ∀ c b, (f c b).trace host tree = (.ok (.yield b), [])) (items : List γ) (start : β) :
    (forIn items start f).trace host tree = (.ok start, []) := by
  induction items with
  | nil => rfl
  | cons c items ih =>
      rw [List.forIn_cons, trace_bind_of_silent (h c start)]
      exact ih

/-- How it ends when a text is the last thing to be printed. -/
def printed (host : Host) (t : Text) (result : α) : Except Failure α × List Output :=
  match host.console.refused? t with
  | none => (.ok result, [.print t])
  | some halves => (.error (.unwritten standardOutput (.loneHalves halves)), [])

theorem printed_of_taken {t : Text} (h : host.console.refused? t = none) (result : α) :
    printed host t result = (.ok result, [.print t]) := by
  rw [printed, h]

theorem printed_eq_ok {t : Text} {result code : α} (h : (printed host t result).1 = .ok code) :
    code = result ∧ (printed host t result).2 = [.print t] := by
  unfold printed at h ⊢
  cases htaken : host.console.refused? t with
  | none =>
      rw [htaken] at h
      exact ⟨(Except.ok.inj h).symm, rfl⟩
  | some halves =>
      rw [htaken] at h
      cases h

theorem printed_eq_ok_iff {t : Text} {result code : α} :
    (printed host t result).1 = .ok code ↔ host.console.refused? t = none ∧ code = result := by
  unfold printed
  cases host.console.refused? t <;> simp [eq_comm]

theorem trace_print_done (t : Text) (result : α) :
    (print t (done result)).trace host tree = printed host t result := by
  rw [trace, printed]
  rfl

theorem trace_print_bind (t : Text) (x : α) (result : β) :
    (print t (done x) >>= fun _ => done result).trace host tree = printed host t result :=
  trace_print_done t result

/-- What a text with markup shows, unless it cannot be shown. -/
def shownPage (console : Console) (t : Text) : Except Markup.Fault Text :=
  match Markup.render console t with
  | .error fault => .error fault
  | .ok shown =>
      match console.page shown with
      | .error fault => .error (.unreadNumber fault)
      | .ok page => .ok page

theorem printMarkup_eq (console : Console) (t : Text) :
    printMarkup console t = match shownPage console t with
      | .error fault => fail (.markup fault)
      | .ok page => print page (done ()) := by
  unfold printMarkup shownPage
  cases Markup.render console t with
  | error fault => rfl
  | ok shown =>
      simp only
      cases console.page shown <;> rfl

/-- Printing a text with markup as the last thing. -/
theorem trace_printMarkup_bind (t : Text) (result : α) :
    (printMarkup host.console t >>= fun _ => done result).trace host tree
      = match shownPage host.console t with
        | .error fault => (.error (.markup fault), [])
        | .ok page => printed host page result := by
  rw [printMarkup_eq]
  cases shownPage host.console t with
  | error fault => rfl
  | ok page => exact trace_print_bind page () result

end

end Action

/-! ## Settings and schemas of a task -/

/-- The file with the settings: the one asked for, or the default. -/
def Settings.path (config : Option Text) : Path :=
  match given config with
  | some file => .ofText file
  | none => Settings.defaultPath

/-- The settings that are in force with a file asked for, or with none. -/
def Settings.find (host : Host) (tree : FileTree) (config : Option Text) :
    Except SettingsFileFault Settings :=
  match given config with
  | some file => Settings.ofFile (.ofText file) (tree.look (.ofText file) host.home) host.stack
  | none =>
      match tree.look Settings.defaultPath host.home with
      | .error _ => .ok {}
      | .ok node => Settings.ofFile (Settings.fullDefaultPath host.directory) (.ok node) host.stack

/-- The schema in a file of a tree. -/
def Schema.loadFile (host : Host) (tree : FileTree) (file : Text) :
    Except SchemaFileFault Schema :=
  Schema.ofFile (.ofText file) (tree.look (.ofText file) host.home) host.stack

/-- Why a task has nothing to work on. -/
inductive InputFault where
  | settings (fault : SettingsFileFault)
  | schema (fault : SchemaFileFault)

/-- The settings and the schema that a task works with. -/
def loadInput (host : Host) (tree : FileTree) (config schema : Option Text) :
    Except InputFault (Settings × Schema) :=
  match Settings.find host tree config with
  | .error fault => .error (.settings fault)
  | .ok settings =>
      match Schema.loadFile host tree ((given schema).getD settings.schemaFile) with
      | .error fault => .error (.schema fault)
      | .ok s => .ok (settings, s)

theorem loadInput_eq_ok_iff {host : Host} {tree : FileTree} {config schema : Option Text}
    {settings : Settings} {s : Schema} :
    loadInput host tree config schema = .ok (settings, s)
      ↔ Settings.find host tree config = .ok settings
        ∧ Schema.loadFile host tree ((given schema).getD settings.schemaFile) = .ok s := by
  unfold loadInput
  constructor
  · intro h
    split at h
    · cases h
    · next found hfound =>
        split at h
        · cases h
        · next loaded hloaded =>
            cases h
            exact ⟨hfound, hloaded⟩
  · rintro ⟨hfound, hloaded⟩
    simp only [hfound, hloaded]

namespace InputFault

def message : InputFault → Text
  | settings fault => fault.message
  | schema fault => fault.message

def isReported : InputFault → Bool
  | settings fault => fault.isReported
  | schema fault => fault.isReported

def failure : InputFault → Failure
  | settings fault => .settingsFile fault
  | schema fault => .schemaFile fault

/-- How a task ends that has nothing to work on. -/
def ending (console : Console) (fault : InputFault) : Action ExitCode :=
  if fault.isReported then do
    printError console fault.message
    return 1
  else .fail fault.failure

/-- A fault that the user is told of ends the task with the code one, unless the
console cannot take what is told. Any other fault ends it without a word. -/
theorem trace_ending (fault : InputFault) (host : Host) (tree : FileTree) :
    (fault.ending host.console).trace host tree
      = if fault.isReported then
          Action.printed host (host.console.errorPage fault.message) 1
        else (.error fault.failure, []) := by
  unfold ending
  split
  · rw [printError_eq]
    exact Action.trace_print_bind _ () 1
  · rfl

theorem trace_ending_cases (fault : InputFault) (host : Host) (tree : FileTree) :
    (∃ failure, (fault.ending host.console).trace host tree = (.error failure, []))
      ∨ (fault.ending host.console).trace host tree
        = (.ok 1, [.print (host.console.errorPage fault.message)]) := by
  rw [trace_ending]
  split
  · unfold Action.printed
    cases host.console.refused? (host.console.errorPage fault.message) with
    | none => exact Or.inr rfl
    | some halves => exact Or.inl ⟨_, rfl⟩
  · exact Or.inl ⟨_, rfl⟩

theorem ending_ne_zero (fault : InputFault) (host : Host) (tree : FileTree) :
    ((fault.ending host.console).trace host tree).1 ≠ .ok 0 := by
  rcases fault.trace_ending_cases host tree with ⟨failure, hending⟩ | hending <;> rw [hending] <;>
    nofun

end InputFault

namespace Invocation

theorem trace_settings (host : Host) (i : Invocation) (tree : FileTree) :
    (i.settings host).trace host tree = (.ok (Settings.find host tree i.config), []) := by
  unfold settings Settings.find
  cases given i.config with
  | some config => rfl
  | none =>
      simp only [Action.trace]
      cases tree.look Settings.defaultPath host.home with
      | error fault => exact Action.trace_bind_of_silent (Action.trace_note _ _) _
      | ok node => rfl

theorem trace_compiled (host : Host) (i : Invocation) (s : Schema) (tree : FileTree) :
    (i.compiled s).trace host tree = (.ok s.compile, []) := by
  unfold compiled
  rw [Action.trace_bind_of_silent (Action.trace_forIn _ s _), Action.trace_bind_of_silent
    (Action.trace_note _ _)]
  · rfl
  · intro m _
    split
    · exact Action.trace_bind_of_silent (Action.trace_note _ _) _
    · rfl

theorem trace_withSchema (host : Host) (i : Invocation) (file : Text)
    (next : Schema → Action ExitCode) (tree : FileTree) :
    (i.withSchema host file next).trace host tree = match Schema.loadFile host tree file with
      | .ok s => (next s).trace host tree
      | .error fault => ((InputFault.schema fault).ending host.console).trace host tree := by
  simp only [withSchema, Action.trace, Schema.loadFile]
  cases Schema.ofFile (.ofText file) (tree.look (.ofText file) host.home) host.stack with
  | ok s => exact Action.trace_bind_of_silent (Action.trace_note _ _) _
  | error fault => rfl

theorem trace_withInput (host : Host) (i : Invocation) (schema : Option Text)
    (next : Settings → Schema → Action ExitCode) (tree : FileTree) :
    (i.withSettings host fun settings =>
        i.withSchema host ((given schema).getD settings.schemaFile) (next settings)).trace host tree
      = match loadInput host tree i.config schema with
        | .ok (settings, s) => (next settings s).trace host tree
        | .error fault => (fault.ending host.console).trace host tree := by
  unfold withSettings loadInput
  rw [Action.trace_bind_of_silent (trace_settings host i tree)]
  cases Settings.find host tree i.config with
  | error fault => rfl
  | ok settings =>
      simp only [trace_withSchema]
      cases Schema.loadFile host tree ((given schema).getD settings.schemaFile) <;> rfl

/-! ## Deliveries -/

/-- What is said about a file that was written. -/
def notice (file : Text) : Text :=
  "[bold green]v[/bold green] Wrote [cyan]" ++ file ++ "[/cyan]"

/-- Delivers a document as the last thing that a task does. -/
def delivery (console : Console) (document : Text) (output : Option Text) : Action ExitCode := do
  deliver console document output
  return 0

theorem isStyle_boldGreen : Markup.IsStyle "bold green" where
  normal := by decide +kernel
  trimmed := by decide
  bare := by decide
  first := rfl
  closing _ := rfl

theorem isStyle_cyan : Markup.IsStyle "cyan" where
  normal := by decide +kernel
  trimmed := by decide
  bare := by decide
  first := rfl
  closing _ := rfl

/-- A name without brackets and backslashes. Not every name can be told of: it is
not escaped. -/
def IsNamable (file : Text) : Prop :=
  ∀ c ∈ file, c ≠ .scalar '\\' ∧ c ≠ .scalar '['

instance (file : Text) : Decidable (IsNamable file) :=
  inferInstanceAs (Decidable (∀ c ∈ file, _))

theorem IsNamable.pieces_notice {file : Text} (h : IsNamable file) :
    Markup.pieces (notice file)
      = .tag 0 "bold green" :: .plain "v" :: .tag 13 (.scalar '/' :: "bold green")
        :: .plain " Wrote " :: .tag 33 "cyan"
        :: (Markup.plainPiece file ++ [.tag (39 + file.length) (.scalar '/' :: "cyan")]) := by
  have hopening : Markup.pieces (notice file)
      = .tag 0 "bold green" :: .plain "v" :: .tag 13 (.scalar '/' :: "bold green")
        :: .plain " Wrote " :: .tag 33 "cyan"
        :: Markup.piecesFrom 39 0 0 [] (file ++ "[/cyan]") := by
    rw [notice, List.append_assoc]
    rfl
  have hclosing := Markup.piecesFrom_tag (39 + file.length) 0 file isStyle_cyan.closing []
  rw [hopening, Markup.piecesFrom_plain 39 [] h, List.nil_append]
  refine congrArg (fun pieces => _ :: _ :: _ :: _ :: _ :: pieces) (hclosing.trans ?_)
  rw [Markup.backslashes, List.replicate_zero, List.append_assoc]
  rfl

/-- What is shown when a file was written. -/
structure Announces (console : Console) (file page : Text) : Prop where
  shown : Action.shownPage console (notice file) = .ok page
  taken : console.refused? page = none

/-- A file with such a name can be told of on every console. -/
theorem IsNamable.exists_announces {file : Text} (h : IsNamable file) (hwhole : file.IsWhole)
    (console : Console) : ∃ page, Announces console file page := by
  obtain ⟨u, hread, -⟩ := (Markup.Spells.plainPiece file).read console
  have hmark : console.clean (Markup.shown "v") = "v" := rfl
  have hwrote : console.clean (Markup.shown " Wrote ") = " Wrote " := rfl
  let text : Text := "v Wrote " ++ u
  let spans : List Span := [⟨8, text.length, "cyan"⟩, ⟨0, 1, "bold green"⟩]
  have hp : Markup.Progress.read console {} (Markup.pieces (notice file))
      = .ok { text, spans } := by
    rw [h.pieces_notice, Markup.Progress.read, isStyle_boldGreen.opens]
    simp only [Markup.Progress.read, hmark, hwrote]
    rw [isStyle_boldGreen.closes]
    simp only [isStyle_cyan.opens]
    rw [hread, Markup.Progress.read, isStyle_cyan.closes]
    rfl
  let result : StyledText := { text, spans := spans.mergeSort fun a b => a.start ≤ b.start }
  have hreadable : result.IsReadable := by
    intro span hspan
    rw [List.mem_mergeSort, List.mem_cons, List.mem_singleton] at hspan
    rcases hspan with rfl | rfl
    · exact isStyle_cyan.readable
    · exact isStyle_boldGreen.readable
  have hrender : Markup.render console (notice file) = .ok result := by
    rw [Markup.render, hp]
    rfl
  refine ⟨console.layOut result, ?_, Console.refused?_layOut (Or.inr ?_)⟩
  · rw [Action.shownPage, hrender]
    simp only [console.page_eq_ok hreadable]
  · refine Markup.isWhole_render hrender ?_
    exact Text.isWhole_append.mpr ⟨Text.isWhole_append.mpr ⟨by decide, hwhole⟩, by decide⟩

section

variable {host : Host} {tree : FileTree}

theorem trace_delivery_none (document : Text) :
    (delivery host.console document none).trace host tree
      = Action.printed host (document ++ "\n") 0 :=
  Action.trace_print_bind _ () 0

theorem trace_delivery_some (document file : Text) :
    (delivery host.console document (some file)).trace host tree
      = match (tree.write host.home (.ofText file) (document ++ "\n")).1 with
        | .error fault =>
            (.error (.unwritten (.ofText file) fault), [.write (.ofText file) (document ++ "\n")])
        | .ok () =>
            match Action.shownPage host.console (notice file) with
            | .error fault =>
                (.error (.markup fault), [.write (.ofText file) (document ++ "\n")])
            | .ok page =>
                ((Action.printed host page 0).1,
                  .write (.ofText file) (document ++ "\n") :: (Action.printed host page 0).2) := by
  have hsteps : delivery host.console document (some file)
      = .write (.ofText file) (document ++ "\n")
        (Action.printMarkup host.console (notice file) >>= fun _ => .done 0) := rfl
  rw [hsteps, Action.trace]
  match tree.write host.home (.ofText file) (document ++ "\n") with
  | (.error fault, _) => rfl
  | (.ok (), tree') =>
      simp only [Action.trace_printMarkup_bind]
      cases Action.shownPage host.console (notice file) <;> rfl

theorem trace_delivery_of_write {document file page : Text} {tree' : FileTree}
    (hwrite : tree.write host.home (.ofText file) (document ++ "\n") = (.ok (), tree'))
    (hpage : Announces host.console file page) :
    (delivery host.console document (some file)).trace host tree
      = (.ok 0, [.write (.ofText file) (document ++ "\n"), .print page]) := by
  simp only [trace_delivery_some, hwrite, hpage.shown, Action.printed_of_taken hpage.taken]

/-- A document is delivered to a file that can be written and told of. -/
theorem exists_trace_delivery {document file : Text} {tree' : FileTree} (hfile : IsNamable file)
    (hwhole : file.IsWhole)
    (hwrite : tree.write host.home (.ofText file) (document ++ "\n") = (.ok (), tree')) :
    ∃ page, (delivery host.console document (some file)).trace host tree
      = (.ok 0, [.write (.ofText file) (document ++ "\n"), .print page]) := by
  obtain ⟨page, hpage⟩ := hfile.exists_announces hwhole host.console
  exact ⟨page, trace_delivery_of_write hwrite hpage⟩

/-- A delivery that ends with a code has put the document where it was to go. -/
theorem delivery_eq_ok {document : Text} {output : Option Text} {code : ExitCode}
    (h : ((delivery host.console document output).trace host tree).1 = .ok code) :
    code = 0 ∧ match output with
      | none => ((delivery host.console document output).trace host tree).2
          = [.print (document ++ "\n")]
      | some file => ∃ tree' page,
          tree.write host.home (.ofText file) (document ++ "\n") = (.ok (), tree')
            ∧ Announces host.console file page
            ∧ ((delivery host.console document output).trace host tree).2
              = [.write (.ofText file) (document ++ "\n"), .print page] := by
  cases output with
  | none =>
      have htrace : (delivery host.console document none).trace host tree = _ :=
        trace_delivery_none document
      obtain ⟨rfl, houtputs⟩ := Action.printed_eq_ok ((congrArg Prod.fst htrace).symm.trans h)
      exact ⟨rfl, (congrArg Prod.snd htrace).trans houtputs⟩
  | some file =>
      rw [trace_delivery_some] at h ⊢
      match hwrite : tree.write host.home (.ofText file) (document ++ "\n") with
      | (.error fault, _) =>
          rw [hwrite] at h
          cases h
      | (.ok (), tree') =>
          rw [hwrite] at h
          cases hpage : Action.shownPage host.console (notice file) with
          | error fault =>
              rw [hpage] at h
              cases h
          | ok page =>
              rw [hpage] at h
              obtain ⟨rfl, houtputs⟩ := Action.printed_eq_ok h
              have htaken := (Action.printed_eq_ok_iff.mp h).1
              exact ⟨rfl, tree', page, hwrite, ⟨hpage, htaken⟩, congrArg (_ :: ·) houtputs⟩

/-! ## Reports of a check -/

/-- How a task ends that reports on a schema, with a code. -/
def reporting (host : Host) (headline : Text) (s : Schema) (code : ExitCode) :
    Except Failure ExitCode × List Output :=
  let report := Action.printed host (host.console.plainPage s.check.text) code
  (report.1, .print (host.console.plainPage headline) :: report.2)

/-- The headline can always be printed, and then the report is. -/
theorem trace_printReport {headline : Text} (h : headline.IsWhole) (s : Schema) (code : ExitCode) :
    (printReport host.console headline s.check >>= fun _ => Action.done code).trace host tree
      = reporting host headline s code := by
  have hsteps : (printReport host.console headline s.check >>= fun _ => Action.done code)
      = .print (host.console.plainPage headline)
        (.print (host.console.plainPage s.check.text) (.done code)) := rfl
  have hheadline := host.console.refused?_plainPage (Or.inr h)
  rw [hsteps, Action.trace, hheadline]
  simp only [Action.trace_print_done]
  rfl

end

/-! ## The four tasks -/

section

variable {host : Host} {i : Invocation} {tree : FileTree} {schema output : Option Text}

theorem trace_compile {indent : IndentChoice} {strict : Bool}
    (htask : i.task = .compile schema output indent strict) :
    (i.action host).trace host tree = match loadInput host tree i.config schema with
      | .error fault => (fault.ending host.console).trace host tree
      | .ok (settings, s) =>
          if !s.check.valid && (strict || settings.strict) then
            reporting host "x Refusing to compile" s 1
          else
            match indent.unit? settings with
            | none => (.error .noIndent, [])
            | some unit =>
                (delivery host.console (expandIndent unit s.compile)
                  ((given output).or (given settings.outputFile))).trace host tree := by
  simp only [action, htask]
  rw [trace_withInput]
  cases loadInput host tree i.config schema with
  | error fault => rfl
  | ok input =>
      obtain ⟨settings, s⟩ := input
      simp only
      split
      · exact trace_printReport (by decide) s 1
      · split
        · rw [Action.trace_bind_of_silent (Action.trace_note _ _),
            Action.trace_bind_of_silent (trace_compiled host i s tree)]
          cases indent.unit? settings <;> rfl
        · rw [Action.trace_bind_of_silent (trace_compiled host i s tree)]
          cases indent.unit? settings <;> rfl

/-- A schema without errors is compiled, strictly or not. -/
theorem trace_compile_of_valid {indent : IndentChoice} {strict : Bool}
    (htask : i.task = .compile schema output indent strict) {settings : Settings} {s : Schema}
    (hinput : loadInput host tree i.config schema = .ok (settings, s))
    (hvalid : s.check.valid = true) {unit : Text} (hunit : indent.unit? settings = some unit) :
    (i.action host).trace host tree
      = (delivery host.console (expandIndent unit s.compile)
          ((given output).or (given settings.outputFile))).trace host tree := by
  rw [trace_compile htask, hinput]
  simp only [hvalid, Bool.not_true, Bool.false_and, hunit]
  rw [if_neg Bool.false_ne_true]

theorem trace_check (htask : i.task = .check schema) :
    (i.action host).trace host tree = match loadInput host tree i.config schema with
      | .error fault => (fault.ending host.console).trace host tree
      | .ok (_, s) =>
          if s.check.valid then
            if s.check.warningCount > 0 then reporting host "v Schema is valid" s 0
            else (.ok 0, [.print (host.console.plainPage "v Schema is valid")])
          else reporting host "x Schema has errors" s 1 := by
  simp only [action, htask]
  rw [trace_withInput]
  cases loadInput host tree i.config schema with
  | error fault => rfl
  | ok input =>
      obtain ⟨settings, s⟩ := input
      simp only
      split
      · split
        · exact trace_printReport (by decide) s 0
        · have htaken := host.console.refused?_plainPage (t := "v Schema is valid")
            (Or.inr (by decide))
          exact (Action.trace_print_bind _ () 0).trans (Action.printed_of_taken htaken 0)
      · exact trace_printReport (by decide) s 1

theorem trace_models (htask : i.task = .models schema) :
    (i.action host).trace host tree = match loadInput host tree i.config schema with
      | .error fault => (fault.ending host.console).trace host tree
      | .ok (_, s) =>
          match s.listing host.console with
          | .error fault => (.error (.markup fault), [])
          | .ok table =>
              match table.lines host.console with
              | .error fault => (.error (.markup (.unreadNumber fault)), [])
              | .ok lines => Action.printed host (Text.ofLines lines) 0 := by
  simp only [action, htask]
  rw [trace_withInput]
  cases loadInput host tree i.config schema with
  | error fault => rfl
  | ok input =>
      obtain ⟨settings, s⟩ := input
      simp only
      cases s.listing host.console with
      | error fault => rfl
      | ok table =>
          simp only
          cases table.lines host.console with
          | error fault => rfl
          | ok lines => exact Action.trace_print_done _ 0

theorem trace_convert {file : Text} (htask : i.task = .convert file output) :
    (i.action host).trace host tree = match Schema.loadFile host tree file with
      | .error fault => ((InputFault.schema fault).ending host.console).trace host tree
      | .ok s =>
          (delivery host.console (s.dump Schema.defaultLayout) (given output)).trace host tree := by
  simp only [action, htask]
  rw [trace_withSchema]
  cases Schema.loadFile host tree file <;> rfl

/-- Compiling ends with zero only in a delivery. -/
theorem compile_eq_zero {indent : IndentChoice} {strict : Bool}
    (htask : i.task = .compile schema output indent strict)
    (h : ((i.action host).trace host tree).1 = .ok 0) :
    ∃ settings s unit, loadInput host tree i.config schema = .ok (settings, s)
      ∧ indent.unit? settings = some unit
      ∧ (i.action host).trace host tree
        = (delivery host.console (expandIndent unit s.compile)
            ((given output).or (given settings.outputFile))).trace host tree := by
  rw [trace_compile htask] at h ⊢
  cases hinput : loadInput host tree i.config schema with
  | error fault =>
      rw [hinput] at h
      exact absurd h (fault.ending_ne_zero host tree)
  | ok input =>
      obtain ⟨settings, s⟩ := input
      rw [hinput] at h
      simp only at h ⊢
      split at h
      · cases (Action.printed_eq_ok h).1
      · next hrefused =>
          cases hunit : indent.unit? settings with
          | none =>
              rw [hunit] at h
              cases h
          | some unit => exact ⟨settings, s, unit, rfl, hunit, by rw [if_neg hrefused]⟩

/-- Converting ends with zero only in a delivery. -/
theorem convert_eq_zero {file : Text} (htask : i.task = .convert file output)
    (h : ((i.action host).trace host tree).1 = .ok 0) :
    ∃ s, Schema.loadFile host tree file = .ok s
      ∧ (i.action host).trace host tree
        = (delivery host.console (s.dump Schema.defaultLayout) (given output)).trace host tree := by
  rw [trace_convert htask] at h ⊢
  cases hloaded : Schema.loadFile host tree file with
  | error fault =>
      rw [hloaded] at h
      exact absurd h (InputFault.ending_ne_zero _ host tree)
  | ok s => exact ⟨s, rfl, rfl⟩

end

end Invocation

/-! ## Runs of the program -/

/-- What a run of the program puts out, in order. -/
def outputs (host : Host) (tree : FileTree) (arguments : List Text) : List Output :=
  match Invocation.ofArguments arguments with
  | .error (.help grammar) => [.print grammar.helpText]
  | .error (.misuse _ _) => []
  | .ok i => ((i.action host).trace host tree).2

theorem tree_execute (host : Host) (tree : FileTree) (arguments : List Text) :
    (execute host tree arguments).2.tree
      = (outputs host tree arguments).foldl (Output.apply host) tree := by
  unfold execute outputs
  cases Invocation.ofArguments arguments with
  | error ending => cases ending <;> rfl
  | ok i =>
      have htree := (Action.run_eq_trace host (i.action host) { tree }).2.1
      simp only at htree ⊢
      rw [← htree]
      split <;> simp only [*]

theorem printed_execute (host : Host) (tree : FileTree) (arguments : List Text) :
    (execute host tree arguments).2.printed
      = (outputs host tree arguments).flatMap Output.shown := by
  unfold execute outputs
  cases Invocation.ofArguments arguments with
  | error ending =>
      cases ending with
      | help grammar => exact (List.append_nil _).symm
      | misuse grammar misuse => rfl
  | ok i =>
      have hprinted := (Action.run_eq_trace host (i.action host) { tree }).2.2
      simp only [List.nil_append] at hprinted ⊢
      rw [← hprinted]
      split <;> simp only [*]

theorem outputs_of_ok {host : Host} {tree : FileTree} {arguments : List Text} {i : Invocation}
    (h : Invocation.ofArguments arguments = .ok i) :
    outputs host tree arguments = ((i.action host).trace host tree).2 := by
  rw [outputs, h]

/-- A run of an invocation ends with a code if its action does. -/
theorem execute_eq_finished_of_ok {host : Host} {tree : FileTree} {arguments : List Text}
    {i : Invocation} (h : Invocation.ofArguments arguments = .ok i) {code : ExitCode} :
    (execute host tree arguments).1 = .finished code
      ↔ ((i.action host).trace host tree).1 = .ok code := by
  have hresult := (Action.run_eq_trace host (i.action host) { tree }).1
  simp only [execute, h]
  rw [← hresult]
  split <;> simp [*]

theorem execute_eq_failed_of_ok {host : Host} {tree : FileTree} {arguments : List Text}
    {i : Invocation} (h : Invocation.ofArguments arguments = .ok i) {failure : Failure} :
    (execute host tree arguments).1 = .failed failure
      ↔ ((i.action host).trace host tree).1 = .error failure := by
  have hresult := (Action.run_eq_trace host (i.action host) { tree }).1
  simp only [execute, h]
  rw [← hresult]
  split <;> simp [*]

theorem exists_invocation_of_finished {host : Host} {tree : FileTree} {arguments : List Text}
    {code : ExitCode} (h : (execute host tree arguments).1 = .finished code) :
    ∃ i, Invocation.ofArguments arguments = .ok i := by
  unfold execute at h
  cases hi : Invocation.ofArguments arguments with
  | error ending =>
      rw [hi] at h
      cases ending <;> cases h
  | ok i => exact ⟨i, rfl⟩

section

variable {host : Host} {tree : FileTree} {arguments : List Text} {i : Invocation}
  (hi : Invocation.ofArguments arguments = .ok i)

include hi

/-- A run that fails at once changes nothing. -/
theorem execute_of_failed {failure : Failure}
    (h : (i.action host).trace host tree = (.error failure, [])) :
    (execute host tree arguments).1 = .failed failure
      ∧ (execute host tree arguments).2.printed = []
      ∧ (execute host tree arguments).2.tree = tree := by
  rw [execute_eq_failed_of_ok hi, printed_execute, tree_execute, outputs_of_ok hi, h]
  exact ⟨rfl, rfl, rfl⟩

/-- A run that only prints changes no file. -/
theorem execute_of_printed {code : ExitCode} {t : Text}
    (h : (i.action host).trace host tree = (.ok code, [.print t])) :
    (execute host tree arguments).1 = .finished code
      ∧ (execute host tree arguments).2.printed = t
      ∧ (execute host tree arguments).2.tree = tree := by
  rw [execute_eq_finished_of_ok hi, printed_execute, tree_execute, outputs_of_ok hi, h]
  exact ⟨rfl, List.append_nil t, rfl⟩

end

end SecurityRules
