import SecurityRules.Proofs.CommandRuns
import SecurityRules.Proofs.Results
import SecurityRules.Proofs.RulesText

/-!
# What another unit of indentation does to a document

Indentation is expanded in the finished text, where a tab that indents a line
and a tab that came in with a value look the same. So every tab is replaced:
`expandIndent_linesText` says that the lines keep their depths in the new unit
and that their contents are expanded as well. The document is the one that would
have been laid out in the unit from the start exactly if that does nothing to
the contents, which is to say if the unit is the tab itself or no value of the
schema that stands in the document holds a tab.
-/

namespace SecurityRules

/-! ## Expanding texts -/

theorem expandIndent_append (unit s t : Text) :
    expandIndent unit (s ++ t) = expandIndent unit s ++ expandIndent unit t :=
  List.flatMap_append

theorem expandIndent_cons_tab (unit t : Text) :
    expandIndent unit (.scalar '\t' :: t) = unit ++ expandIndent unit t :=
  rfl

theorem expandIndent_cons_of_ne (unit : Text) {c : CodePoint} (hc : c ≠ .scalar '\t') (t : Text) :
    expandIndent unit (c :: t) = c :: expandIndent unit t := by
  rw [expandIndent, List.flatMap_cons, if_neg hc]
  rfl

theorem expandIndent_of_notMem (unit : Text) {t : Text} (h : .scalar '\t' ∉ t) :
    expandIndent unit t = t := by
  induction t with
  | nil => rfl
  | cons c t ih =>
      rw [List.mem_cons, not_or] at h
      rw [expandIndent_cons_of_ne unit (Ne.symm h.1), ih h.2]

theorem expandIndent_tab (t : Text) : expandIndent tab t = t := by
  induction t with
  | nil => rfl
  | cons c t ih =>
      by_cases hc : c = .scalar '\t'
      · rw [hc, expandIndent_cons_tab, ih]
        rfl
      · rw [expandIndent_cons_of_ne tab hc, ih]

theorem expandIndent_times (unit : Text) (n : Nat) :
    expandIndent unit (Text.times n tab) = Text.times n unit := by
  induction n with
  | zero => rfl
  | succ n ih =>
      have hunit : Text.times (n + 1) unit = unit ++ Text.times n unit := rfl
      rw [hunit, ← ih]
      exact expandIndent_cons_tab unit _

theorem count_expandIndent (unit t : Text) :
    (expandIndent unit t).count (.scalar '\t')
      = t.count (.scalar '\t') * unit.count (.scalar '\t') := by
  induction t with
  | nil => simp [expandIndent]
  | cons c t ih =>
      by_cases hc : c = .scalar '\t'
      · rw [hc, expandIndent_cons_tab, List.count_append, ih, List.count_cons_self, Nat.succ_mul,
          Nat.add_comm]
      · rw [expandIndent_cons_of_ne unit hc, List.count_cons_of_ne hc, List.count_cons_of_ne hc, ih]

theorem length_expandIndent (unit t : Text) :
    (expandIndent unit t).length + t.count (.scalar '\t')
      = t.length + t.count (.scalar '\t') * unit.length := by
  induction t with
  | nil => simp [expandIndent]
  | cons c t ih =>
      by_cases hc : c = .scalar '\t'
      · rw [hc, expandIndent_cons_tab, List.length_append, List.count_cons_self, List.length_cons,
          Nat.succ_mul]
        omega
      · rw [expandIndent_cons_of_ne unit hc, List.count_cons_of_ne hc, List.length_cons,
          List.length_cons]
        omega

/-- A unit that changes neither the length of a text nor the number of its tabs
is the tab, unless there is nothing to replace. -/
theorem eq_tab_of_expandIndent {unit t : Text} (hlength : (expandIndent unit t).length = t.length)
    (hcount : (expandIndent unit t).count (.scalar '\t') = t.count (.scalar '\t'))
    (ht : .scalar '\t' ∈ t) : unit = tab := by
  have hpos : 0 < t.count (.scalar '\t') := List.count_pos_iff.mpr ht
  have hunitLength : unit.length = 1 := by
    have := length_expandIndent unit t
    rw [hlength] at this
    exact Nat.eq_of_mul_eq_mul_left hpos (by omega)
  have hunitCount : unit.count (.scalar '\t') = 1 := by
    rw [count_expandIndent] at hcount
    exact Nat.eq_of_mul_eq_mul_left hpos (by omega)
  obtain ⟨c, rfl⟩ := List.length_eq_one_iff.mp hunitLength
  have hmem : .scalar '\t' ∈ [c] := List.count_pos_iff.mp (by omega)
  rw [← List.mem_singleton.mp hmem]
  rfl

theorem expandIndent_eq_self_iff {unit t : Text} :
    expandIndent unit t = t ↔ unit = tab ∨ .scalar '\t' ∉ t := by
  constructor
  · intro h
    by_cases ht : .scalar '\t' ∈ t
    · exact Or.inl (eq_tab_of_expandIndent (by rw [h]) (by rw [h]) ht)
    · exact Or.inr ht
  · rintro (rfl | ht)
    · exact expandIndent_tab t
    · exact expandIndent_of_notMem unit ht

/-! ## Expanding lines -/

/-- A line with its content expanded. -/
def Line.expand (unit : Text) (line : Line) : Line :=
  { line with content := expandIndent unit line.content }

theorem linesText_cons_cons (unit : Text) (k l : Line) (ls : List Line) :
    linesText unit (k :: l :: ls) = k.text unit ++ "\n" ++ linesText unit (l :: ls) := by
  rw [linesText, Text.join, List.map_cons, List.map_cons, List.intercalate_cons_cons]
  rfl

theorem linesText_singleton (unit : Text) (line : Line) :
    linesText unit [line] = line.text unit := by
  rw [linesText, Text.join, List.map_singleton, List.intercalate_singleton]

theorem expandIndent_text (unit : Text) (line : Line) :
    expandIndent unit (line.text tab) = (line.expand unit).text unit := by
  rw [Line.text, expandIndent_append, expandIndent_times]
  rfl

/-- Expanding a document indents its lines in the new unit and expands what is
in them. -/
theorem expandIndent_linesText (unit : Text) (ls : List Line) :
    expandIndent unit (linesText tab ls) = linesText unit (ls.map (Line.expand unit)) := by
  match ls with
  | [] => rfl
  | [line] => rw [linesText_singleton, expandIndent_text, List.map_singleton, linesText_singleton]
  | k :: l :: ls =>
      rw [linesText_cons_cons, expandIndent_append, expandIndent_append, expandIndent_text,
        expandIndent_linesText unit (l :: ls), expandIndent_of_notMem unit (by decide)]
      exact (linesText_cons_cons unit _ _ _).symm

/-- How much the contents grow is how much the document grows, whatever is
counted. -/
theorem measure_linesText (measure : Text → Nat)
    (hmeasure : ∀ s t, measure (s ++ t) = measure s + measure t) (unit : Text) (ls : List Line) :
    measure (linesText unit (ls.map (Line.expand unit))) + measure (contents ls)
      = measure (linesText unit ls) + measure (expandIndent unit (contents ls)) := by
  have hline : ∀ line : Line, measure ((line.expand unit).text unit) + measure line.content
      = measure (line.text unit) + measure (expandIndent unit line.content) := by
    intro line
    have hexpand : (line.expand unit).text unit
        = Text.times line.depth unit ++ expandIndent unit line.content := rfl
    rw [hexpand, Line.text, hmeasure, hmeasure]
    omega
  have hcontents : ∀ (line : Line) (ls : List Line),
      contents (line :: ls) = line.content ++ contents ls := fun line ls => List.flatMap_cons
  match ls with
  | [] => rfl
  | [line] =>
      have hnil : contents [line] = line.content := List.append_nil line.content
      rw [List.map_singleton, linesText_singleton, linesText_singleton, hnil]
      exact hline line
  | k :: l :: ls =>
      have hrest := measure_linesText measure hmeasure unit (l :: ls)
      rw [List.map_cons] at hrest
      have hfirst := hline k
      rw [List.map_cons, List.map_cons, linesText_cons_cons, linesText_cons_cons, hcontents k,
        expandIndent_append]
      simp only [hmeasure]
      omega

theorem expandIndent_linesText_eq_iff (unit : Text) (ls : List Line) :
    expandIndent unit (linesText tab ls) = linesText unit ls
      ↔ unit = tab ∨ .scalar '\t' ∉ contents ls := by
  constructor
  · intro h
    rw [expandIndent_linesText] at h
    by_cases htab : .scalar '\t' ∈ contents ls
    · -- equal documents agree in length and in tabs, so the contents do before and after
      left
      refine eq_tab_of_expandIndent ?_ ?_ htab
      · have hlength := measure_linesText List.length (fun _ _ => List.length_append) unit ls
        rw [h] at hlength
        omega
      · have hcount := measure_linesText (List.count (.scalar '\t')) (fun _ _ => List.count_append)
          unit ls
        rw [h] at hcount
        exact (Nat.add_left_cancel hcount).symm
    · exact Or.inr htab
  · intro h
    have hlines : ∀ line ∈ ls, line.expand unit = line := by
      intro line hline
      have hcontent : expandIndent unit line.content = line.content := by
        refine expandIndent_eq_self_iff.mpr (h.imp id fun hnot hmem => hnot ?_)
        exact List.mem_flatMap.mpr ⟨line, hline, hmem⟩
      rw [Line.expand, hcontent]
    rw [expandIndent_linesText, List.map_congr_left hlines, List.map_id']

/-! ## Clauses in a document -/

theorem mem_conjunction_of_mem {ts : List Text} {t : Text} (h : t ∈ ts) :
    ∃ ending, t ++ ending ∈ conjunction ts := by
  induction ts using conjunction.induct with
  | case1 => cases h
  | case2 u =>
      rw [List.mem_singleton.mp h]
      exact ⟨";", List.mem_singleton_self _⟩
  | case3 u ts hne ih =>
      rw [conjunction.eq_3 _ _ hne]
      rcases List.mem_cons.mp h with rfl | h
      · exact ⟨" &&", List.mem_cons_self⟩
      · obtain ⟨ending, hmem⟩ := ih h
        exact ⟨ending, List.mem_cons_of_mem _ hmem⟩

theorem text_infix_linesText (unit : Text) {ls : List Line} {line : Line} (h : line ∈ ls) :
    line.text unit <:+: linesText unit ls := by
  match ls with
  | [k] =>
      rw [List.mem_singleton.mp h]
      exact ⟨[], [], by rw [linesText_singleton, List.nil_append, List.append_nil]⟩
  | k :: l :: ls =>
      rw [linesText_cons_cons]
      rcases List.mem_cons.mp h with rfl | h
      · exact ⟨[], "\n" ++ linesText unit (l :: ls), by simp⟩
      · exact (text_infix_linesText unit h).trans (List.suffix_append _ _).isInfix

theorem Schema.clause_infix_compile {s : Schema} {m : Model} (hm : m ∈ s) {c : Clause}
    (hc : c ∈ m.clauses) : c.text <:+: s.compile := by
  obtain ⟨ending, hmem⟩ := mem_conjunction_of_mem (List.mem_map_of_mem (f := Clause.text) hc)
  have hvalidator : ⟨4, c.text ++ ending⟩ ∈ m.validatorLines := by
    simp only [Model.validatorLines, functionLines, List.mem_append, List.mem_map]
    exact Or.inl (Or.inr ⟨_, hmem, rfl⟩)
  have hdocument : ⟨4, c.text ++ ending⟩ ∈ s.documentLines := by
    simp only [Schema.documentLines, frame, List.mem_append, List.mem_flatten, List.mem_map]
    exact Or.inl (Or.inl (Or.inr ⟨_, ⟨m, hm, rfl⟩, hvalidator⟩))
  refine List.IsInfix.trans ?_ (text_infix_linesText tab hdocument)
  exact ⟨Text.times 4 tab, ending, by rw [Line.text, List.append_assoc]⟩

theorem expandIndent_infix (unit : Text) {t u : Text} (h : t <:+: u) :
    expandIndent unit t <:+: expandIndent unit u := by
  obtain ⟨before, after, rfl⟩ := h
  exact ⟨expandIndent unit before, expandIndent unit after, by
    rw [expandIndent_append, expandIndent_append]⟩

/-! ## Documents and what is delivered -/

/-- Expanding the indentation of a document leaves what is in its lines alone
exactly if no tab was put into them, or tabs are what is wanted. A clause that
holds a tab is changed with the rest, and so the program delivers it. -/
theorem expandIndent_compile (unit : Text) (s : Schema) :
    (expandIndent unit s.compile = linesText unit s.documentLines
      ↔ unit = tab ∨ ∀ m ∈ s, ∀ t ∈ m.insertions, .scalar '\t' ∉ t)
    ∧ (∀ m ∈ s, ∀ c ∈ m.clauses, expandIndent unit c.text <:+: expandIndent unit s.compile
        ∧ (expandIndent unit c.text = c.text ↔ unit = tab ∨ ∀ t ∈ c.operands, .scalar '\t' ∉ t))
    ∧ ∀ (host : Host) (i : Invocation) (schema output : Option Text) (indent : IndentChoice)
        (strict : Bool) (settings : Settings) (w between w' : World),
        i.task = .compile schema output indent strict →
        (i.settings host).run host w = (.ok (.ok settings), between) →
        indent.unit? settings = some unit →
        Schema.ofFile (.ofText ((given schema).getD settings.schemaFile))
          (w.tree.look (.ofText ((given schema).getD settings.schemaFile)) host.home) host.stack
          = .ok s →
        (i.action host).run host w = (.ok 0, w') →
        Invocation.Delivers host (expandIndent unit s.compile) w w' := by
  have hcontrol : CodePoint.IsControl (.scalar '\t') := by decide
  refine ⟨?_, fun m hm c hc => ⟨?_, ?_⟩, ?_⟩
  · rw [Schema.compile, expandIndent_linesText_eq_iff, hcontrol.mem_documentLines]
    simp only [not_exists, not_and]
  · exact expandIndent_infix unit (Schema.clause_infix_compile hm hc)
  · rw [expandIndent_eq_self_iff, hcontrol.mem_clauseText]
    simp only [not_exists, not_and]
  · intro host i schema output indent strict settings w between w' htask hsettings hunit hs
      hrun
    obtain ⟨found, _, loaded, chosen, hfound, hchosen, hloaded, hdelivers⟩ :=
      Invocation.run_compile htask hrun
    rw [hsettings] at hfound
    cases hfound
    rw [hunit] at hchosen
    cases hchosen
    rw [hs] at hloaded
    cases hloaded
    exact hdelivers

/-- A model with a field that has to match a pattern. -/
def patternModel : Model :=
  { name := "a", fields := [{ name := "f", rules := [("regex", .string "b")] }] }

/-- The model in a file. -/
def patternFile : FileTree :=
  [(["s"], .file ("\x7b\"a\": \x7b\"f\": \x7b\"regex\": \"b\"\x7d\x7d\x7d".toList.map
    fun c => c.toNat.toUInt8))]

/-- The pattern is compiled to the terminal, indented by two blanks. -/
theorem expandIndent_compile_delivered :
    ∃ w', (Invocation.action "/" { task := .compile (some "s") none (.unit "  ") false }).run
        "/" { tree := patternFile } = (.ok 0, w')
      ∧ Invocation.Delivers "/" (expandIndent "  " (Schema.compile [patternModel]))
          { tree := patternFile } w'
      ∧ Text.ofString "data.f.matches('b')" <:+: expandIndent "  " (Schema.compile [patternModel])
      ∧ expandIndent "  " (Schema.compile [patternModel])
        = linesText "  " (Schema.documentLines [patternModel]) := by
  let i : Invocation := { task := .compile (some "s") none (.unit "  ") false }
  have hload : Schema.loadFile "/" patternFile "s" = .ok [patternModel] := by decide +kernel
  have hinput : loadInput "/" patternFile none (some "s") = .ok ({}, [patternModel]) :=
    loadInput_eq_ok_iff.mpr ⟨rfl, hload⟩
  have hended : ((i.action "/").run "/" { tree := patternFile }).1 = .ok 0 := by
    rw [(Action.run_eq_trace "/" (i.action "/") _).1, Invocation.trace_compile rfl, hinput]
    simp only [Bool.false_or, Bool.and_false]
    rfl
  have hrun : (i.action "/").run "/" { tree := patternFile } = (.ok 0, _) := Prod.ext hended rfl
  obtain ⟨hlines, hclauses, hdelivered⟩ := expandIndent_compile "  " [patternModel]
  obtain ⟨hfound, hsame⟩ := hclauses patternModel List.mem_cons_self (.matchesPattern "f" "b")
    (by decide +kernel)
  refine ⟨_, hrun, ?_, ?_, hlines.mpr (Or.inr (by decide +kernel))⟩
  · exact hdelivered "/" i (some "s") none (.unit "  ") false {} _ _ _ rfl rfl rfl hload hrun
  · rwa [hsame.mpr (Or.inr (by decide +kernel))] at hfound

/-- A tab in a pattern does not survive two spaces as the unit: the pattern asks
for something else then. -/
theorem expandIndent_compile_tabInPattern :
    ∃ m : Model, expandIndent "  " (Schema.compile [m]) ≠ linesText "  " (Schema.documentLines [m])
      ∧ ∃ c ∈ m.clauses, ¬ c.text <:+: expandIndent "  " (Schema.compile [m]) := by
  refine ⟨{ name := "a", fields := [{ name := "f", rules := [("regex", .string "a\tb")] }] },
    ?_, ?_⟩
  · decide +kernel
  · exact ⟨.matchesPattern "f" "a\tb", by decide +kernel, by decide +kernel⟩

end SecurityRules
