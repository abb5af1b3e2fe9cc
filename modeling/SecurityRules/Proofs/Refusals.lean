import SecurityRules.Proofs.FileReplacement
import SecurityRules.Proofs.IndentExpansion
import SecurityRules.Proofs.ProgramOutputs

/-!
# What the program says instead of delivering

A task that ends with the code one has told the user why, and that is all it has
done: it printed the fault of its settings or its schema, or the report of a
check. `Refused` lists what can be said. None of it could be taken for a
document that the program makes, since the first characters differ, and nothing
is written.
-/

namespace SecurityRules

/-! ## Documents -/

/-- A document that the program makes: rules, or a schema in the persisted
encoding. -/
inductive IsProduct : Text → Prop
  | rules (unit : Text) (s : Schema) : IsProduct (expandIndent unit s.compile)
  | schema (s : Schema) : IsProduct (s.dump Schema.defaultLayout)

/-- A document is put out: on the terminal or into a file. -/
def Emits (outputs : List Output) (document : Text) : Prop :=
  .print (document ++ "\n") ∈ outputs ∨ ∃ path, .write path (document ++ "\n") ∈ outputs

theorem Invocation.emits_of_delivery {host : Host} {document : Text} {output : Option Text}
    {tree : FileTree} {code : ExitCode}
    (h : ((delivery host.console document output).trace host tree).1 = .ok code) :
    Emits ((delivery host.console document output).trace host tree).2 document := by
  have hdelivered := (delivery_eq_ok h).2
  cases output with
  | none =>
      rw [hdelivered]
      exact Or.inl List.mem_cons_self
  | some file =>
      obtain ⟨tree', page, -, -, houtputs⟩ := hdelivered
      rw [houtputs]
      exact Or.inr ⟨_, List.mem_cons_self⟩

theorem Schema.head?_expandIndent_compile (unit : Text) (s : Schema) :
    (expandIndent unit s.compile).head? = some (.scalar 'r') := by
  have hcompile : ∃ rest, s.compile = .scalar 'r' :: rest := by
    unfold Schema.compile Schema.documentLines frame openingLines
    simp only [List.cons_append, linesText_cons_cons]
    exact ⟨_, rfl⟩
  obtain ⟨rest, hrest⟩ := hcompile
  rw [hrest, expandIndent_cons_of_ne unit (by decide)]
  rfl

theorem Schema.head?_dump (layout : Json.Layout) (s : Schema) :
    (s.dump layout).head? = some (.scalar '[') := by
  cases s with
  | nil => rfl
  | cons m s =>
      simp only [dump, toJson, Json.write, List.map_cons, Json.writeAt, List.append_assoc]
      rfl

theorem IsProduct.head? {document : Text} (h : IsProduct document) :
    document.head? = some (.scalar 'r') ∨ document.head? = some (.scalar '[') := by
  cases h with
  | rules unit s => exact Or.inl (s.head?_expandIndent_compile unit)
  | schema s => exact Or.inr (s.head?_dump _)

/-! ## Remarks -/

/-- A step that only tells the user something: it prints, and what it prints starts
as no document does. -/
def Output.IsRemark (o : Output) : Prop :=
  ∃ t c, o = .print t ∧ t.head? = some (.scalar c) ∧ c ≠ 'r' ∧ c ≠ '['

theorem IsProduct.not_prefix_of_head {document t : Text} (hproduct : IsProduct document) {c : Char}
    (h : t.head? = some (.scalar c)) (hc : c ≠ 'r' ∧ c ≠ '[') : ¬ document <+: t := by
  rintro ⟨rest, rfl⟩
  rcases hproduct.head? with hhead | hhead <;> rw [List.head?_append, hhead] at h <;> cases h
  · exact hc.1 rfl
  · exact hc.2 rfl

theorem not_emits_of_remarks {outputs : List Output} (h : ∀ o ∈ outputs, o.IsRemark)
    {document : Text} (hproduct : IsProduct document) : ¬ Emits outputs document := by
  rintro (hprint | ⟨path, hwrite⟩)
  · obtain ⟨t, c, heq, hhead, hc⟩ := h _ hprint
    cases heq
    exact hproduct.not_prefix_of_head hhead hc (List.prefix_append _ _)
  · obtain ⟨t, c, heq, -⟩ := h _ hwrite
    cases heq

/-- What remarks show does not even start with a document. -/
theorem not_prefix_of_remarks {outputs : List Output} (h : ∀ o ∈ outputs, o.IsRemark)
    {document : Text} (hproduct : IsProduct document) :
    ¬ document <+: outputs.flatMap Output.shown := by
  cases outputs with
  | nil =>
      intro hprefix
      rcases hproduct.head? with hhead | hhead <;>
        rw [List.prefix_nil.mp hprefix] at hhead <;> cases hhead
  | cons o outputs =>
      obtain ⟨t, c, rfl, hhead, hc⟩ := h o List.mem_cons_self
      refine hproduct.not_prefix_of_head (c := c) ?_ hc
      rw [List.flatMap_cons, Output.shown, List.head?_append, hhead]
      rfl

/-- Outputs among which there is no write. -/
def NoWrites (outputs : List Output) : Prop :=
  ∀ o ∈ outputs, ∃ t, o = .print t

theorem noWrites_of_remarks {outputs : List Output} (h : ∀ o ∈ outputs, o.IsRemark) :
    NoWrites outputs := by
  intro o ho
  obtain ⟨t, c, rfl, -⟩ := h o ho
  exact ⟨t, rfl⟩

theorem NoWrites.foldl_apply {outputs : List Output} (h : NoWrites outputs) (host : Host)
    (tree : FileTree) : outputs.foldl (Output.apply host) tree = tree := by
  induction outputs with
  | nil => rfl
  | cons o outputs ih =>
      obtain ⟨t, rfl⟩ := h o List.mem_cons_self
      exact ih fun o ho => h o (List.mem_cons_of_mem _ ho)

/-! ## Refusals -/

/-- What is put out by a task that ends with the code one. -/
inductive Refused (console : Console) : List Output → Prop
  | fault (fault : InputFault) : Refused console [.print (console.errorPage fault.message)]
  | report (headline : Text)
      (h : headline = "x Refusing to compile" ∨ headline = "x Schema has errors") (s : Schema) :
      Refused console [.print (console.plainPage headline), .print (console.plainPage s.check.text)]

theorem isRemark_of_prefix {page word : Text} (h : word <+: page) {c : Char}
    (hword : word.head? = some (.scalar c)) (hc : c ≠ 'r' ∧ c ≠ '[') :
    (Output.print page).IsRemark := by
  obtain ⟨rest, rfl⟩ := h
  exact ⟨_, c, rfl, by rw [List.head?_append, hword]; rfl, hc⟩

theorem Text.prefix_join (separator : Text) {front t : Text} (h : front <+: t) (ts : List Text) :
    front <+: Text.join separator (t :: ts) := by
  cases ts with
  | nil =>
      rw [Text.join, List.intercalate_singleton]
      exact h
  | cons u ts =>
      rw [Text.join, List.intercalate_cons_cons, List.append_assoc]
      exact h.trans (List.prefix_append _ _)

theorem Report.prefix_text (r : Report) : Text.opening "Schema" <+: r.text := by
  unfold Report.text
  split
  · exact ⟨Text.ofString "OK", rfl⟩
  · simp only
    cases r.valid with
    | true => exact Text.prefix_join _ ⟨Text.ofString "OK (with warnings):", rfl⟩ _
    | false => exact Text.prefix_join _ ⟨Text.ofString "check failed:", rfl⟩ _

namespace Console

variable (console : Console)

theorem isRemark_errorPage (message : Text) : (Output.print (console.errorPage message)).IsRemark :=
  isRemark_of_prefix (reports_errorPage console message).opening rfl (by decide)

theorem isRemark_report (r : Report) : (Output.print (console.plainPage r.text)).IsRemark := by
  have hword : Text.IsOpening "Schema" := ⟨by decide, by decide⟩
  exact isRemark_of_prefix (console.prefix_plainPage hword (by decide) (by decide) r.prefix_text)
    rfl (by decide)

theorem isRemark_refusal {headline : Text} (h : Text.opening "x" <+: headline) :
    (Output.print (console.plainPage headline)).IsRemark := by
  have hword : Text.IsOpening "x" := ⟨by decide, by decide⟩
  exact isRemark_of_prefix (console.prefix_plainPage hword (by decide) (by decide) h) rfl
    (by decide)

end Console

theorem Refused.remarks {console : Console} {outputs : List Output} (h : Refused console outputs) :
    ∀ o ∈ outputs, o.IsRemark := by
  cases h with
  | fault fault => exact List.forall_mem_singleton.mpr (console.isRemark_errorPage _)
  | report headline h s =>
      have hheadline : Text.opening "x" <+: headline := by
        rcases h with rfl | rfl
        · exact ⟨Text.ofString "Refusing to compile", rfl⟩
        · exact ⟨Text.ofString "Schema has errors", rfl⟩
      exact List.forall_mem_cons.mpr ⟨console.isRemark_refusal hheadline,
        List.forall_mem_singleton.mpr (console.isRemark_report _)⟩

namespace Invocation

variable {host : Host} {headline : Text}
  (hheadline : headline = "x Refusing to compile" ∨ headline = "x Schema has errors")

include hheadline

theorem refused_of_reporting {s : Schema} (h : (reporting host headline s 1).1 = .ok 1) :
    Refused host.console (reporting host headline s 1).2 := by
  have houtputs := (Action.printed_eq_ok h).2
  rw [reporting, houtputs]
  exact .report headline hheadline s

/-- A report that cannot be printed leaves its headline behind. -/
theorem remarks_reporting (s : Schema) (code : ExitCode) :
    ∀ o ∈ (reporting host headline s code).2, o.IsRemark := by
  have hremarks := (.report headline hheadline s : Refused host.console _).remarks
  rw [List.forall_mem_cons, List.forall_mem_singleton] at hremarks
  refine List.forall_mem_cons.mpr ⟨hremarks.1, ?_⟩
  unfold Action.printed
  split
  · exact List.forall_mem_singleton.mpr hremarks.2
  · exact List.forall_mem_nil _

end Invocation

namespace InputFault

theorem refused_of_ending {fault : InputFault} {host : Host} {tree : FileTree}
    (h : ((fault.ending host.console).trace host tree).1 = .ok 1) :
    Refused host.console ((fault.ending host.console).trace host tree).2 := by
  rcases fault.trace_ending_cases host tree with ⟨failure, hending⟩ | hending
  · rw [hending] at h
    cases h
  · rw [hending]
    exact .fault fault

theorem remarks_ending (fault : InputFault) (host : Host) (tree : FileTree) :
    ∀ o ∈ ((fault.ending host.console).trace host tree).2, o.IsRemark := by
  rcases fault.trace_ending_cases host tree with ⟨failure, hending⟩ | hending
  · rw [hending]
    exact List.forall_mem_nil _
  · rw [hending]
    exact (Refused.fault fault).remarks

end InputFault

/-! ## A schema that is refused -/

/-- A model with a field that refers to a model which is not there. -/
def danglingModel : Model :=
  { name := "a", fields := [{ name := "f", rules := [("type", .string "b")] }] }

/-- Two schemas in files: one that has rules, and one with a dangling reference. -/
def patternAndDangling : FileTree :=
  (["d"], .file ("\x7b\"a\": \x7b\"f\": \x7b\"type\": \"b\"\x7d\x7d\x7d".toList.map
    fun c => c.toNat.toUInt8)) :: patternFile

theorem loadInput_pattern :
    loadInput "/" patternAndDangling none (some "s") = .ok ({}, [patternModel]) :=
  loadInput_eq_ok_iff.mpr ⟨rfl, by decide +kernel⟩

theorem loadInput_dangling :
    loadInput "/" patternAndDangling none (some "d") = .ok ({}, [danglingModel]) :=
  loadInput_eq_ok_iff.mpr ⟨rfl, by decide +kernel⟩

/-- The pattern is compiled into a new file, strictly or not. -/
theorem exists_trace_pattern (strict : Bool) :
    ∃ page, Action.trace "/" patternAndDangling
        (Invocation.action "/" { task := .compile (some "s") (some "r") .tabs strict })
      = (.ok 0, [.write (.ofText "r") (expandIndent tab (Schema.compile [patternModel]) ++ "\n"),
          .print page]) := by
  have hvalid : (Schema.check [patternModel]).valid = true := by decide +kernel
  have hwhole : (expandIndent tab (Schema.compile [patternModel]) ++ "\n").IsWhole := by
    decide +kernel
  obtain ⟨bytes, hbytes⟩ := (Utf8.exists_encodeFrom_iff _ 0).mpr hwhole
  have hwrite := FileTree.write_eq_ok_iff.mpr
    ⟨["r"], bytes, (rfl : patternAndDangling.target (Host.home "/") (.ofText "r") = _), hbytes, rfl⟩
  rw [Invocation.trace_compile_of_valid rfl loadInput_pattern hvalid rfl]
  exact Invocation.exists_trace_delivery (by decide) (by decide) hwrite

end SecurityRules
