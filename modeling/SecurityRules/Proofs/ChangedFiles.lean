import SecurityRules.Proofs.FileReplacement
import SecurityRules.Proofs.Refusals

/-!
# The files that a run changes

A run that is refused, or that stops at its arguments, changes no file, and so
do the tasks that only report. Compiling and converting change one file if they
end well and are told to: it holds the document then, with a line feed at its
end. The document is made from the schema as it was loaded, before anything was
written, so the file may be the one that the schema came from.
-/

namespace SecurityRules

/-- A document goes to a file and no other file changes, or else it is all that is
printed and no file changes. -/
def DeliveredTo (host : Host) (output : Option Text) (document : Text) (tree : FileTree)
    (world : World) : Prop :=
  match output with
  | some file => FileTree.Replaced host.home tree world.tree (.ofText file) (document ++ "\n")
  | none => world.tree = tree ∧ world.printed = document ++ "\n"

namespace Invocation

variable {host : Host} {tree : FileTree} {i : Invocation}

/-- A task ends with the code one only if it is refused. -/
theorem refused_of_eq_one (h : ((i.action host).trace host tree).1 = .ok 1) :
    Refused host.console ((i.action host).trace host tree).2 := by
  cases htask : i.task with
  | compile schema output indent strict =>
      rw [trace_compile htask] at h ⊢
      cases hinput : loadInput host tree i.config schema with
      | error fault =>
          rw [hinput] at h
          exact InputFault.refused_of_ending h
      | ok input =>
          rw [hinput] at h
          simp only at h ⊢
          split at h
          · next hrefused =>
              rw [if_pos hrefused]
              exact refused_of_reporting (Or.inl rfl) h
          · split at h
            · cases h
            · cases (delivery_eq_ok h).1
  | check schema =>
      rw [trace_check htask] at h ⊢
      cases hinput : loadInput host tree i.config schema with
      | error fault =>
          rw [hinput] at h
          exact InputFault.refused_of_ending h
      | ok input =>
          rw [hinput] at h
          simp only at h ⊢
          split at h
          · split at h
            · cases (Action.printed_eq_ok h).1
            · cases h
          · next hinvalid =>
              rw [if_neg hinvalid]
              exact refused_of_reporting (Or.inr rfl) h
  | models schema =>
      rw [trace_models htask] at h ⊢
      cases hinput : loadInput host tree i.config schema with
      | error fault =>
          rw [hinput] at h
          exact InputFault.refused_of_ending h
      | ok input =>
          -- a listing is shown or fails
          rw [hinput] at h
          simp only at h
          split at h
          · cases h
          · split at h
            · cases h
            · cases (Action.printed_eq_ok h).1
  | convert file output =>
      rw [trace_convert htask] at h ⊢
      cases hloaded : Schema.loadFile host tree file with
      | error fault =>
          rw [hloaded] at h
          exact InputFault.refused_of_ending h
      | ok s =>
          rw [hloaded] at h
          cases (delivery_eq_ok h).1

theorem noWrites_printed (t : Text) (code : ExitCode) :
    NoWrites (Action.printed host t code).2 := by
  unfold Action.printed
  split
  · exact List.forall_mem_singleton.mpr ⟨t, rfl⟩
  · exact List.forall_mem_nil _

theorem noWrites_reporting (headline : Text) (s : Schema) (code : ExitCode) :
    NoWrites (reporting host headline s code).2 :=
  List.forall_mem_cons.mpr ⟨⟨_, rfl⟩, noWrites_printed _ code⟩

theorem noWrites_check {schema : Option Text} (htask : i.task = .check schema) :
    NoWrites ((i.action host).trace host tree).2 := by
  rw [trace_check htask]
  cases loadInput host tree i.config schema with
  | error fault => exact noWrites_of_remarks (fault.remarks_ending host tree)
  | ok input =>
      simp only
      split
      · split
        · exact noWrites_reporting _ _ 0
        · exact List.forall_mem_singleton.mpr ⟨_, rfl⟩
      · exact noWrites_reporting _ _ 1

theorem noWrites_models {schema : Option Text} (htask : i.task = .models schema) :
    NoWrites ((i.action host).trace host tree).2 := by
  rw [trace_models htask]
  cases loadInput host tree i.config schema with
  | error fault => exact noWrites_of_remarks (fault.remarks_ending host tree)
  | ok input =>
      simp only
      split
      · exact List.forall_mem_nil _
      · split
        · exact List.forall_mem_nil _
        · exact noWrites_printed _ 0

theorem replaced_of_mem_delivery {document : Text} {output : Option Text} {code : ExitCode}
    (h : ((delivery host.console document output).trace host tree).1 = .ok code) {path : Path}
    {content : Text}
    (hmem : .write path content ∈ ((delivery host.console document output).trace host tree).2) :
    FileTree.Replaced host.home tree
      (((delivery host.console document output).trace host tree).2.foldl (Output.apply host) tree)
      path content := by
  have hdelivered := (delivery_eq_ok h).2
  cases output with
  | none =>
      rw [hdelivered] at hmem
      cases List.mem_singleton.mp hmem
  | some file =>
      obtain ⟨tree', page, hwrite, -, houtputs⟩ := hdelivered
      rw [houtputs] at hmem ⊢
      simp only [List.mem_cons, Output.write.injEq, reduceCtorEq, List.not_mem_nil, or_self,
        or_false] at hmem
      obtain ⟨rfl, rfl⟩ := hmem
      simp only [List.foldl_cons, List.foldl_nil, Output.apply, hwrite]
      exact FileTree.replaced_of_write hwrite

/-- A delivery that ends with a code leaves the document where it was to go. -/
theorem deliveredTo_of_delivery {document : Text} {output : Option Text} {code : ExitCode}
    {world : World} (h : ((delivery host.console document output).trace host tree).1 = .ok code)
    (htree : world.tree
      = ((delivery host.console document output).trace host tree).2.foldl (Output.apply host) tree)
    (hprinted : world.printed
      = ((delivery host.console document output).trace host tree).2.flatMap Output.shown) :
    DeliveredTo host output document tree world := by
  have hdelivered := (delivery_eq_ok h).2
  cases output with
  | none =>
      simp only [hdelivered] at htree hprinted
      exact ⟨htree, hprinted.trans (List.append_nil _)⟩
  | some file =>
      obtain ⟨tree', page, -, -, houtputs⟩ := hdelivered
      show FileTree.Replaced host.home tree world.tree _ _
      rw [htree]
      exact replaced_of_mem_delivery h (by rw [houtputs]; exact List.mem_cons_self)

/-- A file that a task has written is there when the task ends well. -/
theorem replaced_of_mem_trace (h : ((i.action host).trace host tree).1 = .ok 0) {path : Path}
    {content : Text} (hmem : .write path content ∈ ((i.action host).trace host tree).2) :
    FileTree.Replaced host.home tree
      (((i.action host).trace host tree).2.foldl (Output.apply host) tree) path content := by
  cases htask : i.task with
  | compile schema output indent strict =>
      obtain ⟨settings, s, unit, -, -, htrace⟩ := compile_eq_zero htask h
      rw [htrace] at h hmem ⊢
      exact replaced_of_mem_delivery h hmem
  | check schema =>
      obtain ⟨t, ht⟩ := noWrites_check htask _ hmem
      cases ht
  | models schema =>
      obtain ⟨t, ht⟩ := noWrites_models htask _ hmem
      cases ht
  | convert file output =>
      obtain ⟨s, -, htrace⟩ := convert_eq_zero htask h
      rw [htrace] at h hmem ⊢
      exact replaced_of_mem_delivery h hmem

end Invocation

/-- A file that a run has written holds what was written when the run ends well. -/
theorem replaced_of_mem_outputs {host : Host} {tree : FileTree} {arguments : List Text}
    (h : (execute host tree arguments).1 = .finished 0) {path : Path} {content : Text}
    (hmem : .write path content ∈ outputs host tree arguments) :
    FileTree.Replaced host.home tree (execute host tree arguments).2.tree path content := by
  obtain ⟨i, hi⟩ := exists_invocation_of_finished h
  rw [outputs_of_ok hi] at hmem
  rw [tree_execute, outputs_of_ok hi]
  exact Invocation.replaced_of_mem_trace ((execute_eq_finished_of_ok hi).mp h) hmem

theorem Grammar.isRemark_helpText (g : Grammar) : (Output.print g.helpText).IsRemark := by
  refine ⟨_, 'u', rfl, ?_, by decide⟩
  simp only [helpText, usageLine, List.append_assoc]
  rfl

/-- A run that is refused or stops at its arguments only says so. -/
theorem remarks_of_execute {host : Host} {tree : FileTree} {arguments : List Text}
    (h : (execute host tree arguments).1 = .finished 1
      ∨ ∃ code complaint, (execute host tree arguments).1 = .stopped code complaint) :
    ∀ o ∈ outputs host tree arguments, o.IsRemark := by
  cases hi : Invocation.ofArguments arguments with
  | error ending =>
      unfold outputs
      rw [hi]
      cases ending with
      | help grammar =>
          intro o ho
          rw [List.mem_singleton.mp ho]
          exact grammar.isRemark_helpText
      | misuse grammar misuse => exact fun _ ho => absurd ho List.not_mem_nil
  | ok i =>
      rw [outputs_of_ok hi]
      rcases h with h | ⟨code, complaint, h⟩
      · exact (Invocation.refused_of_eq_one ((execute_eq_finished_of_ok hi).mp h)).remarks
      · simp only [execute, hi] at h
        split at h <;> cases h

/-- A run that is refused or stops at its arguments changes no file and puts out
no document. Checking and listing change no file however they end. When
compiling or converting ends well, the document made from the schema as it was
loaded is where it was to go, and no other file has changed. -/
theorem execute_changes_output_only {host : Host} {tree : FileTree} {arguments : List Text}
    {outcome : Outcome} {world : World} (h : execute host tree arguments = (outcome, world)) :
    (outcome = .finished 1 ∨ (∃ code complaint, outcome = .stopped code complaint) →
        world.tree = tree
          ∧ ∀ document, IsProduct document →
              ¬ Emits (outputs host tree arguments) document ∧ ¬ document <+: world.printed)
    ∧ ∀ i, Invocation.ofArguments arguments = .ok i →
        match i.task with
        | .check _ => world.tree = tree
        | .models _ => world.tree = tree
        | .compile schema output indent _ => outcome = .finished 0 →
            ∃ settings s unit, loadInput host tree i.config schema = .ok (settings, s)
              ∧ indent.unit? settings = some unit
              ∧ DeliveredTo host ((given output).or (given settings.outputFile))
                  (expandIndent unit s.compile) tree world
        | .convert file output => outcome = .finished 0 →
            ∃ s, Schema.loadFile host tree file = .ok s
              ∧ DeliveredTo host (given output) (s.dump Schema.defaultLayout) tree world := by
  have htree : world.tree = (outputs host tree arguments).foldl (Output.apply host) tree := by
    rw [← tree_execute, h]
  have hprinted : world.printed = (outputs host tree arguments).flatMap Output.shown := by
    rw [← printed_execute, h]
  have houtcome : (execute host tree arguments).1 = outcome := by rw [h]
  subst houtcome
  refine ⟨fun hended => ?_, fun i hi => ?_⟩
  · have hremarks := remarks_of_execute hended
    exact ⟨htree.trans ((noWrites_of_remarks hremarks).foldl_apply host tree),
      fun document hproduct => ⟨not_emits_of_remarks hremarks hproduct,
        hprinted ▸ not_prefix_of_remarks hremarks hproduct⟩⟩
  · rw [outputs_of_ok hi] at htree hprinted
    rw [execute_eq_finished_of_ok hi]
    split
    · next htask => exact htree.trans ((Invocation.noWrites_check htask).foldl_apply host tree)
    · next htask => exact htree.trans ((Invocation.noWrites_models htask).foldl_apply host tree)
    · next htask =>
        intro h₀
        obtain ⟨settings, s, unit, hinput, hunit, htrace⟩ := Invocation.compile_eq_zero htask h₀
        rw [htrace] at h₀ htree hprinted
        exact ⟨settings, s, unit, hinput, hunit,
          Invocation.deliveredTo_of_delivery h₀ htree hprinted⟩
    · next htask =>
        intro h₀
        obtain ⟨s, hloaded, htrace⟩ := Invocation.convert_eq_zero htask h₀
        rw [htrace] at h₀ htree hprinted
        exact ⟨s, hloaded, Invocation.deliveredTo_of_delivery h₀ htree hprinted⟩

/-- A schema is compiled to the terminal and to a new file, and converted onto itself.
The dangling reference of another one is refused, where rules were to replace it. -/
theorem execute_changes_output_only_inPlace :
    let tree := patternAndDangling
    (execute "/" tree ["compile", "s"]).2.printed
        = expandIndent "  " (Schema.compile [patternModel]) ++ "\n"
      ∧ FileTree.Replaced (Host.home "/") tree
          (execute "/" tree ["compile", "s", "--tabs", "-o", "r"]).2.tree (.ofText "r")
          (expandIndent tab (Schema.compile [patternModel]) ++ "\n")
      ∧ FileTree.Replaced (Host.home "/") tree
          (execute "/" tree ["convert", "s", "-o", "s"]).2.tree (.ofText "s")
          (Schema.dump Schema.defaultLayout [patternModel] ++ "\n")
      ∧ (execute "/" tree ["compile", "d", "--strict", "-o", "d"]).2.tree = tree
      ∧ (execute "/" tree ["check", "d"]).2.tree = tree
      ∧ (execute "/" tree ["convert", "-h"]).2.tree = tree := by
  intro tree
  have hvalid : (Schema.check [patternModel]).valid = true := by decide +kernel
  have hloaded : Schema.loadFile "/" tree "s" = .ok [patternModel] :=
    (loadInput_eq_ok_iff.mp loadInput_pattern).2
  have hprinted : (execute "/" tree ["compile", "s"]).1 = .finished 0 := by
    rw [execute_eq_finished_of_ok (i := { task := .compile (some "s") none .settings false }) rfl,
      Invocation.trace_compile_of_valid rfl loadInput_pattern hvalid rfl]
    rfl
  have hwritten : (execute "/" tree ["compile", "s", "--tabs", "-o", "r"]).1 = .finished 0 := by
    obtain ⟨page, htrace⟩ := exists_trace_pattern false
    rw [execute_eq_finished_of_ok (i := { task := .compile (some "s") (some "r") .tabs false }) rfl,
      htrace]
  have hconverted : (execute "/" tree ["convert", "s", "-o", "s"]).1 = .finished 0 := by
    have hwhole : (Schema.dump Schema.defaultLayout [patternModel] ++ "\n").IsWhole := by
      decide +kernel
    obtain ⟨bytes, hbytes⟩ := (Utf8.exists_encodeFrom_iff _ 0).mpr hwhole
    have hwrite := FileTree.write_eq_ok_iff.mpr
      ⟨["s"], bytes, (rfl : tree.target (Host.home "/") (.ofText "s") = _), hbytes, rfl⟩
    obtain ⟨page, htrace⟩ :=
      @Invocation.exists_trace_delivery "/" _ _ _ _ (by decide) (by decide) hwrite
    rw [execute_eq_finished_of_ok (i := { task := .convert "s" (some "s") }) rfl,
      Invocation.trace_convert rfl, hloaded]
    exact congrArg Prod.fst htrace
  have hrefused : (execute "/" tree ["compile", "d", "--strict", "-o", "d"]).1 = .finished 1 := by
    rw [execute_eq_finished_of_ok (i := { task := .compile (some "d") (some "d") .settings true })
      rfl, Invocation.trace_compile rfl, loadInput_dangling]
    rfl
  refine ⟨?_, ?_, ?_, ?_, ?_, ?_⟩
  · have hrun := (execute_changes_output_only
      (Prod.eta (execute "/" tree ["compile", "s"])).symm).2
      { task := .compile (some "s") none .settings false } rfl
    obtain ⟨settings, s, unit, hinput, hunit, hdelivered⟩ := hrun hprinted
    cases loadInput_pattern.symm.trans hinput
    cases hunit
    exact hdelivered.2
  · have hrun := (execute_changes_output_only
      (Prod.eta (execute "/" tree ["compile", "s", "--tabs", "-o", "r"])).symm).2
      { task := .compile (some "s") (some "r") .tabs false } rfl
    obtain ⟨settings, s, unit, hinput, hunit, hdelivered⟩ := hrun hwritten
    cases loadInput_pattern.symm.trans hinput
    cases hunit
    exact hdelivered
  · have hrun := (execute_changes_output_only
      (Prod.eta (execute "/" tree ["convert", "s", "-o", "s"])).symm).2
      { task := .convert "s" (some "s") } rfl
    obtain ⟨s, hloadedAgain, hdelivered⟩ := hrun hconverted
    cases hloaded.symm.trans hloadedAgain
    exact hdelivered
  · exact ((execute_changes_output_only (Prod.eta _).symm).1 (Or.inl hrefused)).1
  · exact (execute_changes_output_only (Prod.eta _).symm).2 { task := .check (some "d") } rfl
  · exact ((execute_changes_output_only (Prod.eta _).symm).1 (Or.inr ⟨0, [], rfl⟩)).1

end SecurityRules
