import SecurityRules.Check.Basic
import SecurityRules.Proofs.IndentExpansion
import SecurityRules.Proofs.CompiledRules

/-!
# Warnings can be seen in the rules

Two of the warnings say something about the rules of a model: that its validation
function accepts every document, and that update or delete is open to everyone who is
signed in. The check finds both in the schema. Here they are read off the text instead:
the one off the function, which then has the single line `true;` for its body, and the
other off the lines of the access block.

A clause never starts as `true;` does, so a function with clauses has another text. In
an access block the condition of a line is what stands between its opening words and
its end; an update line also ends with the call of the validation function, which is no
part of the condition whatever the model is called.
-/

namespace SecurityRules

/-! ## Functions without clauses -/

/-- The text of a function whose body is the single line `true;`. -/
def trueFunction (name : Text) : Text :=
  "\t\tfunction " ++ name ++ "(data) \x7b\n\t\t\treturn\n\t\t\t\ttrue;\n\t\t\x7d"

/-- The text of a validation function as far as its first clause. -/
def functionOpening (name : Text) : Text :=
  "\t\tfunction " ++ name ++ "(data) \x7b\n\t\t\treturn\n\t\t\t\t"

theorem trueFunction_eq (name : Text) :
    trueFunction name = functionOpening name ++ "true;\n\t\t\x7d" := by
  simp only [trueFunction, functionOpening, List.append_assoc, List.append_cancel_left_eq]
  rfl

theorem exists_linesText_cons (unit : Text) (line : Line) (ls : List Line) :
    ∃ rest, linesText unit (line :: ls) = line.text unit ++ rest := by
  cases ls with
  | nil => exact ⟨[], by rw [linesText_singleton, List.append_nil]⟩
  | cons next ls =>
      refine ⟨"\n" ++ linesText unit (next :: ls), ?_⟩
      rw [linesText_cons_cons, List.append_assoc]

theorem exists_conjunction_cons (t : Text) (ts : List Text) :
    ∃ ending us, conjunction (t :: ts) = (t ++ ending) :: us := by
  cases ts with
  | nil => exact ⟨_, _, rfl⟩
  | cons u ts => exact ⟨_, _, rfl⟩

/-- The first clause of a model follows on the words that every function opens with. -/
theorem Model.exists_validator_eq {m : Model} {c : Clause} {cs : List Clause}
    (h : m.clauses = c :: cs) :
    ∃ rest, m.validator = functionOpening (validatorName m.name) ++ (c.text ++ rest) := by
  obtain ⟨ending, us, hbody⟩ := exists_conjunction_cons c.text (cs.map Clause.text)
  obtain ⟨rest, hrest⟩ :=
    exists_linesText_cons tab ⟨4, c.text ++ ending⟩ (us.map (⟨4, ·⟩) ++ [⟨2, "\x7d"⟩])
  refine ⟨ending ++ rest, ?_⟩
  rw [Model.validator, Model.validatorLines, functionLines, h, List.map_cons, hbody,
    List.map_cons]
  simp only [List.cons_append, List.nil_append, linesText_cons_cons, hrest, Line.text,
    functionOpening, List.append_assoc]
  rfl

theorem Model.validator_of_clauses_eq_nil {m : Model} (h : m.clauses = []) :
    m.validator = trueFunction (validatorName m.name) := by
  rw [Model.validator, Model.validatorLines, h]
  simp only [functionLines, List.map_nil, conjunction, List.map_cons, List.cons_append,
    List.nil_append, linesText_cons_cons, linesText_singleton, Line.text, trueFunction,
    List.append_assoc]
  rfl

theorem Model.validator_eq_trueFunction_iff {m : Model} :
    m.validator = trueFunction (validatorName m.name) ↔ m.clauses = [] := by
  refine ⟨fun h => ?_, Model.validator_of_clauses_eq_nil⟩
  cases hclauses : m.clauses with
  | nil => rfl
  | cons c cs =>
      obtain ⟨rest, hrest⟩ := Model.exists_validator_eq hclauses
      rw [hrest, trueFunction_eq, List.append_cancel_left_eq] at h
      -- the first clause would start as `true;` does
      obtain ⟨d, hd, hhead⟩ := c.head?_text
      have hfirst : (c.text ++ rest).head? = some (.scalar 't') := by
        rw [h]
        rfl
      rw [List.head?_append, hhead] at hfirst
      cases hfirst
      exact absurd hd (by decide)

/-! ## Lines of an access block -/

/-- The lines of an access block as they are written. -/
def Model.accessRows (m : Model) : List Text :=
  m.accessLines.map (Line.text tab)

theorem join_append_nil {separator : Text} {rows : List Text} (h : rows ≠ []) :
    Text.join separator (rows ++ [[]]) = Text.join separator rows ++ separator := by
  unfold Text.join
  induction rows with
  | nil => exact absurd rfl h
  | cons row rows ih =>
      cases rows with
      | nil =>
          rw [List.singleton_append, List.intercalate_cons_cons, List.intercalate_singleton,
            List.intercalate_singleton]
          simp
      | cons next rows =>
          rw [List.intercalate_cons_cons, List.append_assoc, ← ih (List.cons_ne_nil next rows)]
          exact List.intercalate_cons_cons

/-- An access block is its lines with a line feed behind each of them. -/
theorem Model.accessBlock_eq (m : Model) :
    m.accessBlock = Text.join "\n" (m.accessRows ++ [[]]) := by
  have hrows : m.accessRows ≠ [] := List.cons_ne_nil _ _
  rw [join_append_nil hrows]
  rfl

theorem Model.splitOn_accessBlock {m : Model} (hname : .scalar '\n' ∉ m.name)
    (howner : ∀ owner ∈ m.guardingOwner, .scalar '\n' ∉ owner) :
    m.accessBlock.splitOn (.scalar '\n') = m.accessRows ++ [[]] := by
  have hcontrol : CodePoint.IsControl (.scalar '\n') := by decide
  have hcontents : .scalar '\n' ∉ contents m.accessLines := by
    rw [hcontrol.mem_accessLines]
    rintro (hfeed | ⟨owner, hmem, hfeed⟩)
    · exact hname hfeed
    · exact howner owner hmem hfeed
  rw [Model.accessBlock_eq]
  refine List.splitOn_intercalate _ (fun row hrow => ?_) (by simp)
  rcases List.mem_append.mp hrow with hrow | hrow
  · obtain ⟨line, hline, rfl⟩ := List.mem_map.mp hrow
    refine Line.Plain.notMem_text ⟨fun hfeed => hcontents ?_, m.front_accessLines line hline⟩
    exact List.mem_flatMap.mpr ⟨line, hline, hfeed⟩
  · rw [List.mem_singleton.mp hrow]
    exact List.not_mem_nil

/-- The lines that allow something are those at the depth of three. -/
theorem Model.mem_accessRows_iff {m : Model} {t : Text} (ht : t.head? ≠ some (.scalar '\t')) :
    Text.times 3 tab ++ t ∈ m.accessRows ↔ ∃ a ∈ m.allowances, a.text = t := by
  rw [Model.accessRows, List.mem_map]
  constructor
  · rintro ⟨line, hline, htext⟩
    obtain ⟨hdepth, hcontent⟩ :=
      indent_tab_injective (m.front_accessLines line hline) ht htext
    simp only [Model.accessLines, SecurityRules.accessLines, List.mem_append, List.mem_map,
      List.mem_singleton] at hline
    rcases hline with (rfl | ⟨a, ha, rfl⟩) | rfl
    · cases hdepth
    · exact ⟨a, ha, hcontent⟩
    · cases hdepth
  · rintro ⟨a, ha, rfl⟩
    refine ⟨⟨3, a.text⟩, ?_, rfl⟩
    simp only [Model.accessLines, SecurityRules.accessLines, List.mem_append, List.mem_map]
    exact Or.inl (Or.inr ⟨a, ha, rfl⟩)

theorem Operation.eq_of_head {o p : Operation} (h : o.word.head? = p.word.head?) : o = p := by
  revert h
  cases o <;> cases p <;> decide

namespace Allowance

/-- The words that open a line tell its operation. -/
theorem operation_of_text {a : Allowance} {o : Operation} {t : Text}
    (h : a.text = "allow " ++ (o.word ++ t)) : a.operation = o := by
  have hword : ∀ (p : Operation) (u : Text), (p.word ++ u).head? = p.word.head? := by
    intro p u
    cases p <;> rfl
  rw [text_eq, List.append_cancel_left_eq] at h
  have hhead := congrArg List.head? h
  rw [hword, hword] at hhead
  exact Operation.eq_of_head hhead

end Allowance

/-- Where a model has one allowance for an operation, the line for that operation has the
allowance's condition. -/
theorem Model.row_mem_iff (m : Model) (a : Allowance)
    (h : m.allowances.filter (·.operation = a.operation) = [a]) (condition : Text) :
    Text.times 3 tab ++ ("allow " ++ (a.operation.word ++ (": if " ++ (condition ++ a.ending))))
        ∈ m.accessRows
      ↔ condition = a.guard.text := by
  have honly : ∀ b, b ∈ m.allowances ∧ b.operation = a.operation ↔ b = a := by
    intro b
    have hmem : b ∈ m.allowances.filter (·.operation = a.operation) ↔ b = a := by
      rw [h, List.mem_singleton]
    rwa [List.mem_filter, decide_eq_true_eq] at hmem
  rw [Model.mem_accessRows_iff (by rintro ⟨⟩)]
  constructor
  · rintro ⟨b, hb, htext⟩
    obtain rfl := (honly b).mp ⟨hb, Allowance.operation_of_text htext⟩
    rw [Allowance.text_eq] at htext
    simp only [List.append_cancel_left_eq, List.append_cancel_right_eq] at htext
    exact htext.symm
  · rintro rfl
    exact ⟨a, ((honly a).mpr rfl).1, a.text_eq⟩

theorem Model.update_mem_iff {m : Model} {condition : Text} :
    "\t\t\tallow update: if " ++ condition ++ " && " ++ validatorName m.name
        ++ "(request.resource.data);" ∈ m.accessRows
      ↔ condition = (Guard.when m.update m.ownerGuard).text := by
  have hrow := m.row_mem_iff
    ⟨.update, .when m.update m.ownerGuard, some (validatorName m.name)⟩
    (by unfold Model.allowances; cases m.readOne <;> rfl) condition
  rw [← hrow]
  simp only [Allowance.ending, List.append_assoc]
  rfl

theorem Model.delete_mem_iff {m : Model} {condition : Text} :
    "\t\t\tallow delete: if " ++ condition ++ ";" ∈ m.accessRows
      ↔ condition = (Guard.when m.delete m.ownerGuard).text := by
  have hrow := m.row_mem_iff ⟨.delete, .when m.delete m.ownerGuard, none⟩
    (by unfold Model.allowances; cases m.readOne <;> rfl) condition
  rw [← hrow]
  simp only [Allowance.ending, List.append_assoc]
  rfl

/-! ## Conditions that leave the owner out -/

/-- The call that compares a field of the stored document with the caller. -/
def ownershipCall (field : Text) : Text :=
  "ownedByCaller(resource.data." ++ field ++ ")"

/-- A condition asks for a signed-in caller, and for none of the fields it asks whether
that field names the caller. -/
def LeavesOwnerOut (fields : List Text) (condition : Text) : Prop :=
  Text.ofString "request.auth != null" <:+: condition
    ∧ ∀ field ∈ fields, ¬ ownershipCall field <:+: condition

theorem Model.leavesOwnerOut_iff (m : Model) (required : Bool) :
    LeavesOwnerOut m.fieldNames (Guard.when required m.ownerGuard).text
      ↔ required = true ∧ m.effectiveOwner = none := by
  cases required with
  | false =>
      have hfree : ¬ Text.ofString "request.auth != null" <:+: Guard.anyone.text :=
        fun h => absurd h.length_le (by decide)
      exact ⟨fun h => absurd h.1 hfree, fun h => absurd h.1 Bool.false_ne_true⟩
  | true =>
      show LeavesOwnerOut m.fieldNames m.ownerGuard.text ↔ _
      unfold Model.ownerGuard
      cases howner : m.effectiveOwner with
      | none =>
          refine ⟨fun _ => ⟨rfl, rfl⟩, fun _ => ⟨List.infix_rfl, fun field _ hcall => ?_⟩⟩
          -- a call has a parenthesis, and asking for a signed-in caller takes none
          have hparenthesis : CodePoint.scalar '(' ∈ ownershipCall field := by
            simp [ownershipCall, Text.ofString, Text.ofChars]
          exact absurd (hcall.subset hparenthesis) (by decide)
      | some owner =>
          refine ⟨fun h => absurd ?_ (h.2 owner (Model.mem_fieldNames_of_effectiveOwner howner)),
            fun h => absurd h.2 (Option.some_ne_none owner)⟩
          refine ⟨signedInText ++ " && ", [], ?_⟩
          simp only [ownershipCall, Guard.text, ownershipFunction, List.append_assoc,
            List.append_nil]
          rfl

/-- The update line or the delete line of a model has a condition that leaves the owner
out. -/
def Model.OmitsOwner (m : Model) : Prop :=
  ∃ condition, LeavesOwnerOut m.fieldNames condition
    ∧ ("\t\t\tallow update: if " ++ condition ++ " && " ++ validatorName m.name
            ++ "(request.resource.data);" ∈ m.accessRows
        ∨ "\t\t\tallow delete: if " ++ condition ++ ";" ∈ m.accessRows)

theorem Model.omitsOwner_iff {m : Model} : m.OmitsOwner ↔ m.isOwnerless = true := by
  have hlines : m.OmitsOwner
      ↔ LeavesOwnerOut m.fieldNames (Guard.when m.update m.ownerGuard).text
        ∨ LeavesOwnerOut m.fieldNames (Guard.when m.delete m.ownerGuard).text := by
    simp only [Model.OmitsOwner, Model.update_mem_iff, Model.delete_mem_iff]
    constructor
    · rintro ⟨condition, hleaves, rfl | rfl⟩
      · exact Or.inl hleaves
      · exact Or.inr hleaves
    · rintro (hleaves | hleaves)
      · exact ⟨_, hleaves, Or.inl rfl⟩
      · exact ⟨_, hleaves, Or.inr rfl⟩
  rw [hlines, Model.leavesOwnerOut_iff, Model.leavesOwnerOut_iff, ← or_and_right,
    Model.isOwnerless, Model.requiresOwner, Bool.and_eq_true, Bool.or_eq_true,
    Option.isNone_iff_eq_none]

instance (m : Model) : Decidable m.OmitsOwner :=
  decidable_of_iff _ Model.omitsOwner_iff.symm

/-- The models that the check warns about are those whose rules show it: a function
whose body is `true;`, and an update or delete line that asks for a signed-in caller and
for no owner. Each is named once and in order. The lines of a block are what its line
feeds separate, unless the name of the model or the owner brings in line feeds of its
own. -/
theorem Schema.warnings_visible (s : Schema) :
    s.check.empty
        = (s.filter fun m => m.validator = trueFunction (validatorName m.name)).map (·.name)
      ∧ s.check.ownerless = (s.filter fun m => m.OmitsOwner).map (·.name)
      ∧ ∀ m ∈ s, m.accessBlock = Text.join "\n" (m.accessRows ++ [[]])
          ∧ (.scalar '\n' ∉ m.name → (∀ owner ∈ m.guardingOwner, .scalar '\n' ∉ owner) →
              m.accessBlock.splitOn (.scalar '\n') = m.accessRows ++ [[]]) := by
  refine ⟨?_, ?_, fun m _ => ⟨m.accessBlock_eq, Model.splitOn_accessBlock⟩⟩
  · show (s.filter Model.isEmpty).map (·.name) = _
    congr 1
    refine List.filter_congr fun m _ => ?_
    rw [Bool.eq_iff_iff, decide_eq_true_eq, Model.validator_eq_trueFunction_iff, Model.isEmpty,
      List.isEmpty_iff]
  · show (s.filter Model.isOwnerless).map (·.name) = _
    congr 1
    refine List.filter_congr fun m _ => ?_
    rw [Bool.eq_iff_iff, decide_eq_true_eq, Model.omitsOwner_iff]

end SecurityRules
