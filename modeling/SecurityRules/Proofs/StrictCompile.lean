import SecurityRules.Proofs.Refusals

/-!
# Strict compiling and checking

Compiling strictly and checking look at the same input and ask the same
question. They load the settings and the schema alike, so they fail alike on
what they cannot load, and then both end with the code one exactly if the schema
has errors. Without strictness the schema is compiled all the same; whatever is
delivered does not depend on it.
-/

namespace SecurityRules

namespace Invocation

variable {host : Host} {tree : FileTree} {i : Invocation} {schema output : Option Text}
  {indent : IndentChoice} {strict : Bool}

/-- The report of a check can be printed. -/
def ReportTaken (host : Host) (s : Schema) : Prop :=
  host.console.refused? (host.console.plainPage s.check.text) = none

theorem check_eq_one_iff (htask : i.task = .check schema) :
    ((i.action host).trace host tree).1 = .ok 1
      ↔ match loadInput host tree i.config schema with
        | .error fault => ((fault.ending host.console).trace host tree).1 = .ok 1
        | .ok (_, s) => s.check.valid = false ∧ ReportTaken host s := by
  rw [trace_check htask]
  cases loadInput host tree i.config schema with
  | error fault => rfl
  | ok input =>
      obtain ⟨settings, s⟩ := input
      simp only [reporting, ReportTaken]
      cases s.check.valid with
      | true =>
          simp only [if_pos, Bool.true_eq_false, false_and, iff_false]
          split
          · rw [Action.printed_eq_ok_iff]
            exact fun h => absurd h.2 (by decide)
          · exact fun h => absurd (Except.ok.inj h) (by decide)
      | false => simp [Action.printed_eq_ok_iff]

theorem compile_eq_one_iff (htask : i.task = .compile schema output indent strict) :
    ((i.action host).trace host tree).1 = .ok 1
      ↔ match loadInput host tree i.config schema with
        | .error fault => ((fault.ending host.console).trace host tree).1 = .ok 1
        | .ok (settings, s) => s.check.valid = false ∧ (strict || settings.strict) = true
            ∧ ReportTaken host s := by
  rw [trace_compile htask]
  cases loadInput host tree i.config schema with
  | error fault => rfl
  | ok input =>
      obtain ⟨settings, s⟩ := input
      simp only
      by_cases hrefused : !s.check.valid && (strict || settings.strict)
      · rw [if_pos hrefused, reporting, Action.printed_eq_ok_iff]
        rw [Bool.and_eq_true, Bool.not_eq_true'] at hrefused
        exact ⟨fun h => ⟨hrefused.1, hrefused.2, h.1⟩, fun h => ⟨h.2.2, rfl⟩⟩
      · rw [if_neg hrefused]
        constructor
        · -- what is delivered is not refused
          intro h
          split at h
          · cases h
          · cases (delivery_eq_ok h).1
        · intro h
          exact absurd (by simp [h.1, h.2.1]) hrefused

/-- What puts a document out has loaded a schema, and with strictness in force has
found no errors in it. -/
theorem valid_of_emits (htask : i.task = .compile schema output indent strict) {document : Text}
    (hproduct : IsProduct document) (hemits : Emits ((i.action host).trace host tree).2 document) :
    ∃ settings s, loadInput host tree i.config schema = .ok (settings, s)
      ∧ ((strict || settings.strict) = true → s.check.valid = true) := by
  rw [trace_compile htask] at hemits
  cases hinput : loadInput host tree i.config schema with
  | error fault =>
      rw [hinput] at hemits
      exact absurd hemits (not_emits_of_remarks (fault.remarks_ending host tree) hproduct)
  | ok input =>
      obtain ⟨settings, s⟩ := input
      refine ⟨settings, s, rfl, fun hstrict => ?_⟩
      by_contra hvalid
      rw [hinput] at hemits
      simp only [hstrict, hvalid] at hemits
      exact absurd hemits (not_emits_of_remarks (remarks_reporting (Or.inl rfl) s 1) hproduct)

/-- Strictness is not in what is delivered. -/
theorem trace_compile_eq {j : Invocation} {lenient strict : Bool} (hconfig : i.config = j.config)
    (hi : i.task = .compile schema output indent lenient)
    (hj : j.task = .compile schema output indent strict)
    (hi₀ : ((i.action host).trace host tree).1 = .ok 0)
    (hj₀ : ((j.action host).trace host tree).1 = .ok 0) :
    (i.action host).trace host tree = (j.action host).trace host tree := by
  obtain ⟨settings, s, unit, hinput, hunit, htrace⟩ := compile_eq_zero hi hi₀
  obtain ⟨settings', s', unit', hinput', hunit', htrace'⟩ := compile_eq_zero hj hj₀
  rw [← hconfig, hinput] at hinput'
  cases hinput'
  rw [hunit] at hunit'
  cases hunit'
  rw [htrace, htrace']

end Invocation

/-- Checking a schema and compiling it strictly end with the code one on the same
files. Rules that come out with strictness in force are those of a schema
without errors. If compiling ends well with strictness and without, the same
rules come out, and they are those of the schema. -/
theorem strict_compile_agrees_with_check (host : Host) (tree : FileTree)
    (config schema : Option Text) :
    (∀ (checking compiling : List Text) (i j : Invocation) (output : Option Text)
        (indent : IndentChoice),
        Invocation.ofArguments checking = .ok i → i.config = config → i.task = .check schema →
        Invocation.ofArguments compiling = .ok j → j.config = config →
        j.task = .compile schema output indent true →
        ((execute host tree checking).1 = .finished 1
          ↔ (execute host tree compiling).1 = .finished 1))
    ∧ (∀ (compiling : List Text) (i : Invocation) (output : Option Text) (indent : IndentChoice)
        (strict : Bool),
        Invocation.ofArguments compiling = .ok i → i.config = config →
        i.task = .compile schema output indent strict →
        ∀ (unit : Text) (compiled : Schema),
          Emits (outputs host tree compiling) (expandIndent unit compiled.compile) →
          ∃ settings s, Settings.find host tree config = .ok settings
            ∧ Schema.loadFile host tree ((given schema).getD settings.schemaFile) = .ok s
            ∧ ((strict || settings.strict) = true → s.check.valid = true))
    ∧ (∀ (lenient strict : List Text) (i j : Invocation) (output : Option Text)
        (indent : IndentChoice),
        Invocation.ofArguments lenient = .ok i → i.config = config →
        i.task = .compile schema output indent false →
        Invocation.ofArguments strict = .ok j → j.config = config →
        j.task = .compile schema output indent true →
        (execute host tree lenient).1 = .finished 0 →
        (execute host tree strict).1 = .finished 0 →
        outputs host tree lenient = outputs host tree strict
          ∧ (execute host tree lenient).2.tree = (execute host tree strict).2.tree
          ∧ (execute host tree lenient).2.printed = (execute host tree strict).2.printed
          ∧ ∃ settings s unit, loadInput host tree config schema = .ok (settings, s)
            ∧ indent.unit? settings = some unit
            ∧ Emits (outputs host tree strict) (expandIndent unit s.compile)) := by
  refine ⟨?_, ?_, ?_⟩
  · rintro checking compiling i j output indent hi rfl hitask hj hconfig hjtask
    rw [execute_eq_finished_of_ok hi, execute_eq_finished_of_ok hj,
      Invocation.check_eq_one_iff hitask, Invocation.compile_eq_one_iff hjtask, hconfig]
    cases loadInput host tree i.config schema <;> simp
  · rintro compiling i output indent strict hi rfl hitask unit compiled hemits
    rw [outputs_of_ok hi] at hemits
    obtain ⟨settings, s, hinput, hvalid⟩ :=
      Invocation.valid_of_emits hitask (.rules unit compiled) hemits
    obtain ⟨hsettings, hloaded⟩ := loadInput_eq_ok_iff.mp hinput
    exact ⟨settings, s, hsettings, hloaded, hvalid⟩
  · rintro lenient strict i j output indent hi rfl hitask hj hconfig hjtask hi₀ hj₀
    rw [execute_eq_finished_of_ok hi] at hi₀
    rw [execute_eq_finished_of_ok hj] at hj₀
    have houtputs : outputs host tree lenient = outputs host tree strict := by
      rw [outputs_of_ok hi, outputs_of_ok hj,
        Invocation.trace_compile_eq hconfig.symm hitask hjtask hi₀ hj₀]
    refine ⟨houtputs, by simp only [tree_execute, houtputs],
      by simp only [printed_execute, houtputs], ?_⟩
    obtain ⟨settings, s, unit, hinput, hunit, htrace⟩ := Invocation.compile_eq_zero hjtask hj₀
    rw [hconfig] at hinput
    rw [htrace] at hj₀
    rw [outputs_of_ok hj, htrace]
    exact ⟨settings, s, unit, hinput, hunit, Invocation.emits_of_delivery hj₀⟩

/-- The dangling reference is reported and refused, even where the rules would
replace the schema. The other schema has rules, strictly or not, and the same ones
go to a file. -/
theorem strict_compile_agrees_with_check_dangling :
    (execute "/" patternAndDangling ["compile", "d", "--strict", "-o", "d"]).1 = .finished 1
      ∧ (∃ settings s, Settings.find "/" patternAndDangling none = .ok settings
        ∧ Schema.loadFile "/" patternAndDangling "s" = .ok s ∧ s.check.valid = true)
      ∧ outputs "/" patternAndDangling ["compile", "s", "--tabs", "-o", "r"]
        = outputs "/" patternAndDangling ["compile", "--tabs", "--strict", "s", "-o", "r"]
      ∧ Emits (outputs "/" patternAndDangling ["compile", "s", "--tabs", "-o", "r"])
        (expandIndent tab (Schema.compile [patternModel])) := by
  let lenient : Invocation := { task := .compile (some "s") (some "r") .tabs false }
  let strict : Invocation := { task := .compile (some "s") (some "r") .tabs true }
  have hlenient : Invocation.ofArguments ["compile", "s", "--tabs", "-o", "r"] = .ok lenient := rfl
  have hstrict : Invocation.ofArguments ["compile", "--tabs", "--strict", "s", "-o", "r"]
      = .ok strict := rfl
  obtain ⟨page, htrace⟩ := exists_trace_pattern false
  obtain ⟨page', htrace'⟩ := exists_trace_pattern true
  have hlenient₀ : (execute "/" patternAndDangling ["compile", "s", "--tabs", "-o", "r"]).1
      = .finished 0 := by
    rw [execute_eq_finished_of_ok hlenient, htrace]
  have hstrict₀ : (execute "/" patternAndDangling
      ["compile", "--tabs", "--strict", "s", "-o", "r"]).1 = .finished 0 := by
    rw [execute_eq_finished_of_ok hstrict, htrace']
  have hcheck : (execute "/" patternAndDangling ["check", "d"]).1 = .finished 1 := by
    rw [execute_eq_finished_of_ok (i := { task := .check (some "d") }) rfl,
      Invocation.check_eq_one_iff rfl, loadInput_dangling]
    exact ⟨by decide, rfl⟩
  have hon := strict_compile_agrees_with_check "/" patternAndDangling none (some "d")
  have hoff := strict_compile_agrees_with_check "/" patternAndDangling none (some "s")
  obtain ⟨hsame, -, -, settings, s, unit, hinput, hunit, hemits⟩ :=
    hoff.2.2 _ _ _ _ (some "r") .tabs hlenient rfl rfl hstrict rfl rfl hlenient₀ hstrict₀
  cases loadInput_pattern.symm.trans hinput
  cases hunit
  obtain ⟨settings, s, hsettings, hloaded, hvalid⟩ :=
    hoff.2.1 _ _ (some "r") .tabs true hstrict rfl rfl tab [patternModel] hemits
  exact ⟨(hon.1 _ _ _ _ (some "d") .settings rfl rfl rfl rfl rfl rfl).mp hcheck,
    ⟨settings, s, hsettings, hloaded, hvalid rfl⟩, hsame, hsame ▸ hemits⟩

end SecurityRules
