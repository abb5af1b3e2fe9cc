import SecurityRules.Proofs.JsonStrings
import SecurityRules.Ruleset.Document

/-!
# Where control characters in a rules document come from

The fixed words of a rules document are printable, so a line feed or a tab
inside one of its lines was brought in by the schema. `Model.insertions` lists
what a model puts into its lines, and `IsControl.mem_documentLines` says that a
control character stands in the lines of a document exactly if it stands in one
of these texts. Capitalising a name is no exception: no character becomes a
control character in upper case, and none of them has an upper case.
-/

namespace SecurityRules

/-- A control character, as far as the ASCII ones go. -/
def CodePoint.IsControl (c : CodePoint) : Prop :=
  c.toNat < 0x20

instance (c : CodePoint) : Decidable c.IsControl :=
  inferInstanceAs (Decidable (c.toNat < 0x20))

theorem CodePoint.IsControl.notMem_of_printable {d : CodePoint} (hd : d.IsControl) {t : Text}
    (ht : ∀ c ∈ t, 0x20 ≤ c.toNat) : d ∉ t := by
  intro hmem
  have hle := ht d hmem
  have hlt : d.toNat < 0x20 := hd
  omega

theorem CodePoint.IsControl.notMem {d : CodePoint} (hd : d.IsControl) (s : String)
    (hs : (Text.ofString s).all (0x20 ≤ ·.toNat)) : d ∉ Text.ofString s :=
  hd.notMem_of_printable fun c hc => of_decide_eq_true (List.all_eq_true.mp hs c hc)

/-! ## Capitalised names -/

theorem le_toNat_ofNat {n : Nat} (hn : 0x20 ≤ n) : 0x20 ≤ (CodePoint.ofNat n).toNat := by
  by_cases h : n < 0x110000
  · rwa [CodePoint.toNat_ofNat h]
  · rw [CodePoint.ofNat_of_le (Nat.le_of_not_lt h)]
    decide

theorem upperNumbers_control : ∀ n < 0x20, upperNumbers n = [n] := by
  decide +kernel

theorem le_of_mem_upperNumbers {n k : Nat} (h : k ∈ upperNumbers n) : k = n ∨ 0x20 ≤ k := by
  have hruns : ∀ run ∈ upperRuns, 0x20 ≤ run.first + run.shift := by decide +kernel
  have hexpansions : ∀ e ∈ caseExpansions, ∀ k ∈ e.2, 0x20 ≤ k := by decide +kernel
  unfold upperNumbers at h
  split at h
  · next expansion hlookup =>
      obtain ⟨before, after, hsplit, -⟩ := List.lookup_eq_some_iff.mp hlookup
      exact Or.inr (hexpansions (n, expansion) (by rw [hsplit]; simp) k h)
  · -- a run moves every character that it covers by the same distance
    rw [List.mem_singleton, CaseRun.move] at h
    split at h
    · next run hfind =>
        have hmem := List.mem_of_find?_eq_some hfind
        have hcovers := List.find?_some hfind
        simp only [CaseRun.covers, Bool.and_eq_true, decide_eq_true_eq] at hcovers
        have htarget := hruns run hmem
        right
        omega
    · exact Or.inl h

theorem upper_of_isControl {c : CodePoint} (hc : c.IsControl) : c.upper = [c] := by
  unfold CodePoint.upper
  rw [upperNumbers_control _ hc]
  exact if_pos rfl

theorem mem_upper {c d : CodePoint} (h : d ∈ c.upper) : d = c ∨ 0x20 ≤ d.toNat := by
  unfold CodePoint.upper at h
  split at h
  · next n hn =>
      split at h
      · exact Or.inl (List.mem_singleton.mp h)
      · next hne =>
          rw [List.mem_singleton.mp h]
          have hn' := le_of_mem_upperNumbers (n := c.toNat) (k := n) (by simp [hn])
          exact Or.inr (le_toNat_ofNat (hn'.resolve_left hne))
  · obtain ⟨k, hk, rfl⟩ := List.mem_map.mp h
    rcases le_of_mem_upperNumbers hk with rfl | hk
    · exact Or.inl (CodePoint.ofNat_toNat c)
    · exact Or.inr (le_toNat_ofNat hk)

theorem CodePoint.IsControl.mem_upper {d : CodePoint} (hd : d.IsControl) {c : CodePoint} :
    d ∈ c.upper ↔ d = c := by
  constructor
  · intro h
    refine (SecurityRules.mem_upper h).resolve_right fun hle => ?_
    exact absurd hd (Nat.not_lt.mpr hle)
  · rintro rfl
    rw [upper_of_isControl hd]
    exact List.mem_singleton_self d

theorem CodePoint.IsControl.mem_capitalize {d : CodePoint} (hd : d.IsControl) {t : Text} :
    d ∈ capitalize t ↔ d ∈ t := by
  cases t with
  | nil => rfl
  | cons c rest => rw [capitalize, List.mem_append, hd.mem_upper, List.mem_cons]

theorem CodePoint.IsControl.mem_validatorName {d : CodePoint} (hd : d.IsControl) {model : Text} :
    d ∈ validatorName model ↔ d ∈ model := by
  simp only [validatorName, List.mem_append, hd.mem_capitalize, hd.notMem "validate" rfl,
    hd.notMem "Model" rfl, false_or, or_false]

/-! ## Clauses -/

/-- The texts of a schema that a clause holds. -/
def Clause.operands : Clause → List Text
  | .hasType field type => [field, type]
  | .matchesPattern field pattern => [field, pattern]
  | .emptyOrMatches field pattern => [field, pattern]
  | .lengthAtMost field bound => [field, bound]
  | .lengthAtLeast field bound => [field, bound]
  | .validates field model => [field, model]

theorem CodePoint.IsControl.mem_clauseText {d : CodePoint} (hd : d.IsControl) {c : Clause} :
    d ∈ c.text ↔ ∃ t ∈ c.operands, d ∈ t := by
  cases c <;>
    simp only [Clause.text, Clause.operands, List.mem_append, List.mem_cons, List.not_mem_nil,
      or_false, false_or, exists_eq_or_imp, exists_eq_left, hd.mem_validatorName,
      hd.notMem "data." rfl, hd.notMem " is " rfl, hd.notMem ".matches('" rfl, hd.notMem "')" rfl,
      hd.notMem "(data." rfl, hd.notMem " == '' || data." rfl, hd.notMem "'))" rfl,
      hd.notMem ".length <= " rfl, hd.notMem ".length >= " rfl, hd.notMem ")" rfl]
  all_goals tauto

theorem CodePoint.IsControl.mem_conjunction {d : CodePoint} (hd : d.IsControl)
    {clauses : List Text} :
    d ∈ (conjunction clauses).flatten ↔ ∃ t ∈ clauses, d ∈ t := by
  induction clauses using conjunction.induct with
  | case1 => simp [conjunction, hd.notMem "true;" rfl]
  | case2 clause => simp [conjunction, hd.notMem ";" rfl]
  | case3 clause clauses hne ih =>
      rw [conjunction.eq_3 _ _ hne, List.flatten_cons, List.mem_append, ih]
      simp [hd.notMem " &&" rfl]

/-! ## Lines -/

/-- The contents of lines, one after another. -/
def contents (lines : List Line) : Text :=
  lines.flatMap Line.content

theorem contents_append (as bs : List Line) : contents (as ++ bs) = contents as ++ contents bs :=
  List.flatMap_append

theorem mem_contents_flatten {d : CodePoint} {s : Schema} {block : Model → List Line} :
    d ∈ contents (s.map block).flatten ↔ ∃ m ∈ s, d ∈ contents (block m) := by
  simp only [contents, List.mem_flatMap, List.mem_flatten, List.mem_map,
    exists_exists_and_eq_and]
  constructor
  · rintro ⟨line, ⟨m, hm, hline⟩, hd⟩
    exact ⟨m, hm, line, hline, hd⟩
  · rintro ⟨m, hm, line, hline, hd⟩
    exact ⟨line, ⟨m, hm, hline⟩, hd⟩

theorem CodePoint.IsControl.mem_functionLines {d : CodePoint} (hd : d.IsControl)
    {name argument : Text} {clauses : List Text} :
    d ∈ contents (functionLines name argument clauses)
      ↔ d ∈ name ∨ d ∈ argument ∨ ∃ t ∈ clauses, d ∈ t := by
  have hbody : contents ((conjunction clauses).map (⟨4, ·⟩)) = (conjunction clauses).flatten := by
    rw [contents, List.flatMap_map]
    exact List.flatMap_id'
  rw [functionLines, contents_append, contents_append, hbody]
  simp only [contents, List.flatMap_cons, List.flatMap_nil, List.mem_append, hd.mem_conjunction,
    hd.notMem "function " rfl, hd.notMem "(" rfl, hd.notMem ") \x7b" rfl, hd.notMem "return" rfl,
    hd.notMem "\x7d" rfl, List.not_mem_nil, or_false, false_or, or_assoc]

/-! ## Access blocks -/

def Guard.operands : Guard → List Text
  | .owner field => [field]
  | _ => []

theorem CodePoint.IsControl.mem_guardText {d : CodePoint} (hd : d.IsControl) {g : Guard} :
    d ∈ g.text ↔ ∃ t ∈ g.operands, d ∈ t := by
  cases g with
  | anyone => simp [Guard.text, Guard.operands, hd.notMem "true" rfl]
  | signedIn =>
      simp [Guard.text, Guard.operands, signedInText, hd.notMem "request.auth != null" rfl]
  | owner field =>
      simp [Guard.text, Guard.operands, signedInText, ownershipFunction,
        hd.notMem "request.auth != null" rfl, hd.notMem " && " rfl, hd.notMem "ownedByCaller" rfl,
        hd.notMem "(resource.data." rfl, hd.notMem ")" rfl]

theorem CodePoint.IsControl.notMem_word {d : CodePoint} (hd : d.IsControl) (o : Operation) :
    d ∉ o.word := by
  refine hd.notMem_of_printable ?_
  cases o <;> decide

theorem CodePoint.IsControl.mem_allowanceText {d : CodePoint} (hd : d.IsControl) {a : Allowance} :
    d ∈ a.text ↔ (∃ t ∈ a.guard.operands, d ∈ t) ∨ ∃ function ∈ a.validator, d ∈ function := by
  obtain ⟨operation, guard, validator⟩ := a
  cases validator with
  | none =>
      simp [Allowance.text, hd.notMem "allow " rfl, hd.notMem_word, hd.notMem ": if " rfl,
        hd.mem_guardText, hd.notMem "" rfl, hd.notMem ";" rfl]
  | some function =>
      simp [Allowance.text, hd.notMem "allow " rfl, hd.notMem_word, hd.notMem ": if " rfl,
        hd.mem_guardText, hd.notMem " && " rfl, hd.notMem "(request.resource.data)" rfl,
        hd.notMem ";" rfl]

/-- The owner field, where update or delete asks for it. -/
def Model.guardingOwner (m : Model) : Option Text :=
  if m.requiresOwner then m.effectiveOwner else none

theorem Model.operands_ownerGuard (m : Model) :
    m.ownerGuard.operands = m.effectiveOwner.toList := by
  unfold Model.ownerGuard
  cases m.effectiveOwner <;> rfl

theorem Guard.operands_when (required : Bool) (guard : Guard) :
    (Guard.when required guard).operands = if required then guard.operands else [] := by
  cases required <;> rfl

theorem CodePoint.IsControl.mem_allowances {d : CodePoint} (hd : d.IsControl) {m : Model} :
    (∃ a ∈ m.allowances, d ∈ a.text) ↔ d ∈ m.name ∨ ∃ owner ∈ m.guardingOwner, d ∈ owner := by
  have hreading : ∀ required, (Guard.when required .signedIn).operands = [] := by
    intro required
    cases required <;> rfl
  have hlast : (∃ a ∈ m.allowances, d ∈ a.text)
      ↔ d ∈ m.name
        ∨ ((∃ t ∈ (Guard.when m.update m.ownerGuard).operands, d ∈ t) ∨ d ∈ m.name)
        ∨ ∃ t ∈ (Guard.when m.delete m.ownerGuard).operands, d ∈ t := by
    unfold Model.allowances
    cases m.readOne <;> simp [hd.mem_allowanceText, hd.mem_validatorName, hreading]
  rw [hlast, Guard.operands_when, Guard.operands_when, Model.operands_ownerGuard,
    Model.guardingOwner, Model.requiresOwner]
  cases m.update <;> cases m.delete <;> simp [or_comm, or_left_comm]

theorem CodePoint.IsControl.mem_accessLines {d : CodePoint} (hd : d.IsControl) {m : Model} :
    d ∈ contents m.accessLines ↔ d ∈ m.name ∨ ∃ owner ∈ m.guardingOwner, d ∈ owner := by
  have hbody : d ∈ contents (m.allowances.map fun a => ⟨3, a.text⟩)
      ↔ ∃ a ∈ m.allowances, d ∈ a.text := by
    rw [contents, List.flatMap_map, List.mem_flatMap]
  rw [Model.accessLines, SecurityRules.accessLines, contents_append, contents_append,
    List.mem_append, List.mem_append, hbody, hd.mem_allowances]
  simp only [contents, List.flatMap_cons, List.flatMap_nil, List.mem_append, List.not_mem_nil,
    hd.notMem "match /" rfl, hd.notMem "/\x7b" rfl, hd.notMem "Document\x7d \x7b" rfl,
    hd.notMem "\x7d" rfl, or_false, false_or, or_self, ← or_assoc]

/-! ## Documents -/

/-- The texts of a model that stand in the lines of its document. -/
def Model.insertions (m : Model) : List Text :=
  m.name :: (m.guardingOwner.toList ++ m.clauses.flatMap Clause.operands)

theorem CodePoint.IsControl.mem_validatorLines {d : CodePoint} (hd : d.IsControl) {m : Model} :
    d ∈ contents m.validatorLines
      ↔ d ∈ m.name ∨ ∃ t ∈ m.clauses.flatMap Clause.operands, d ∈ t := by
  have hclauses : (∃ t ∈ m.clauses.map Clause.text, d ∈ t)
      ↔ ∃ t ∈ m.clauses.flatMap Clause.operands, d ∈ t := by
    simp only [List.mem_map, exists_exists_and_eq_and, hd.mem_clauseText, List.mem_flatMap]
    constructor
    · rintro ⟨c, hc, t, ht, hdt⟩
      exact ⟨t, ⟨c, hc, ht⟩, hdt⟩
    · rintro ⟨t, ⟨c, hc, ht⟩, hdt⟩
      exact ⟨c, hc, t, ht, hdt⟩
  rw [Model.validatorLines, hd.mem_functionLines, hd.mem_validatorName, hclauses]
  simp [hd.notMem "data" rfl]

/-- A control character in the lines of a document was put there by a model. -/
theorem CodePoint.IsControl.mem_documentLines {d : CodePoint} (hd : d.IsControl) {s : Schema} :
    d ∈ contents s.documentLines ↔ ∃ m ∈ s, ∃ t ∈ m.insertions, d ∈ t := by
  have hopening : d ∉ contents openingLines := hd.notMem_of_printable (by decide)
  have hownership : d ∉ contents ownershipLines := hd.notMem_of_printable (by decide)
  have hclosing : d ∉ contents closingLines := hd.notMem_of_printable (by decide)
  simp only [Schema.documentLines, frame, contents_append, List.mem_append, mem_contents_flatten,
    hd.mem_validatorLines, hd.mem_accessLines, hopening, hownership, hclosing, or_false, false_or]
  simp only [Model.insertions, List.mem_cons, List.mem_append, Option.mem_toList]
  constructor
  · rintro (⟨m, hm, hname | ⟨t, ht, hdt⟩⟩ | ⟨m, hm, hname | ⟨t, ht, hdt⟩⟩)
    · exact ⟨m, hm, m.name, Or.inl rfl, hname⟩
    · exact ⟨m, hm, t, Or.inr (Or.inr ht), hdt⟩
    · exact ⟨m, hm, m.name, Or.inl rfl, hname⟩
    · exact ⟨m, hm, t, Or.inr (Or.inl ht), hdt⟩
  · rintro ⟨m, hm, t, rfl | ht | ht, hdt⟩
    · exact Or.inl ⟨m, hm, Or.inl hdt⟩
    · exact Or.inr ⟨m, hm, Or.inr ⟨t, ht, hdt⟩⟩
    · exact Or.inl ⟨m, hm, Or.inr ⟨t, ht, hdt⟩⟩

end SecurityRules
