import SecurityRules.Proofs.EffectiveSettings

/-!
# Fields and rules may stand in any order

A model may list its fields in another order, and a field its rules. The clauses
then come in another order too, each of them as often as before, and the access
block stays as it is.

A clause does not come from one rule alone: a pattern asks whether its field may
be left empty, which is a rule of its own and may stand before it or after it. It
is looked up by its key, and as a key stands only once, looking it up finds the
same rule in any order. In the same way the owner is looked for among the names
of all fields.
-/

namespace SecurityRules

/-- `g` is `f` with its rules in another order. -/
structure Field.Reordered (f g : Field) : Prop where
  name : g.name = f.name
  rules : g.rules.Perm f.rules

/-- A model with its fields in another order, and then the rules of each field in
another order. -/
inductive Model.Reordered (m : Model) : Model → Prop
  | mk {moved fields : List Field} (hmoved : moved.Perm m.fields)
      (hfields : List.Forall₂ Field.Reordered moved fields) : Reordered m { m with fields }

/-- Somewhere among its rules a field has one of a kind, and its value is not blank. -/
def Field.Sets (f : Field) (kind : Kind) (value : Json) : Prop :=
  (kind.key, value) ∈ f.rules ∧ value.isBlank = false

/-! ## Looking up a key -/

theorem Record.get?_perm {α : Type} {q r : Record α} (h : r.keys.Nodup) (hperm : q.Perm r)
    (key : Text) : q.get? key = r.get? key := by
  have hq : q.keys.Nodup := (hperm.map Prod.fst).nodup_iff.mpr h
  ext a
  rw [Record.get?_eq_some_iff hq, Record.get?_eq_some_iff h, hperm.mem_iff]

/-! ## Fields -/

/-- The clause of a pattern, for a field that may be left empty or for another. -/
def patternClause (mayBeEmpty : Bool) (field pattern : Text) : Clause :=
  if mayBeEmpty then .emptyOrMatches field pattern else .matchesPattern field pattern

namespace Field

variable {f g : Field}

theorem canBeEmpty_iff (h : f.rules.keys.Nodup) :
    f.canBeEmpty = true ↔ ∃ value, f.Sets .canBeEmpty value := by
  unfold canBeEmpty rule Sets
  simp only [← Record.get?_eq_some_iff h]
  cases f.rules.get? Kind.canBeEmpty.key with
  | none => simp [Json.isBlank]
  | some value => simp

theorem clause?_eq_patternClause_iff {kind : Kind} {value : Json} {mayBeEmpty : Bool}
    {pattern : Text} :
    f.clause? kind value = some (patternClause mayBeEmpty f.name pattern)
      ↔ kind = .regex ∧ value.isBlank = false ∧ value.display = pattern
        ∧ f.canBeEmpty = mayBeEmpty := by
  unfold clause? patternClause
  cases value.isBlank with
  | true => simp
  | false =>
      cases kind with
      | type =>
          cases isPrimitiveType value.display <;> cases mayBeEmpty <;> simp
      | regex =>
          cases f.canBeEmpty <;> cases mayBeEmpty <;> simp
      | minLength | maxLength | canBeEmpty =>
          cases mayBeEmpty <;> simp [Kind.clause?]

theorem patternClause_mem_clauses_iff {mayBeEmpty : Bool} {pattern : Text} :
    patternClause mayBeEmpty f.name pattern ∈ f.clauses
      ↔ (∃ value, f.Sets .regex value ∧ value.display = pattern)
        ∧ f.canBeEmpty = mayBeEmpty := by
  rw [clauses_eq, List.mem_filterMap]
  simp only [ruleClause?, Option.bind_eq_some_iff, clause?_eq_patternClause_iff]
  constructor
  · rintro ⟨⟨key, value⟩, hmem, kind, hkey, rfl, hfilled, hdisplay, hempty⟩
    rw [Kind.ofKey?_eq_some_iff] at hkey
    exact ⟨⟨value, ⟨hkey ▸ hmem, hfilled⟩, hdisplay⟩, hempty⟩
  · rintro ⟨⟨value, ⟨hmem, hfilled⟩, hdisplay⟩, hempty⟩
    exact ⟨_, hmem, .regex, Kind.ofKey?_eq_some_iff.mpr rfl, rfl, hfilled, hdisplay, hempty⟩

namespace Reordered

theorem canBeEmpty_eq (h : f.Reordered g) (hkeys : f.rules.keys.Nodup) :
    g.canBeEmpty = f.canBeEmpty := by
  rw [canBeEmpty, canBeEmpty, rule, rule, Record.get?_perm hkeys h.rules]

theorem ruleClause?_eq (h : f.Reordered g) (hkeys : f.rules.keys.Nodup) :
    g.ruleClause? = f.ruleClause? := by
  funext e
  unfold ruleClause? clause?
  rw [h.canBeEmpty_eq hkeys, h.name]

theorem perm_clauses (h : f.Reordered g) (hkeys : f.rules.keys.Nodup) :
    g.clauses.Perm f.clauses := by
  rw [clauses_eq, clauses_eq, h.ruleClause?_eq hkeys]
  exact h.rules.filterMap _

end Reordered

end Field

/-! ## Models -/

theorem perm_flatMap_clauses {fs gs : List Field} (h : List.Forall₂ Field.Reordered fs gs)
    (hkeys : ∀ f ∈ fs, f.rules.keys.Nodup) :
    (gs.flatMap Field.clauses).Perm (fs.flatMap Field.clauses) := by
  induction h with
  | nil => exact .nil
  | cons hfield _ ih =>
      rw [List.flatMap_cons, List.flatMap_cons]
      exact (hfield.perm_clauses (hkeys _ (by simp))).append
        (ih fun f hf => hkeys f (List.mem_cons_of_mem _ hf))

theorem map_name_eq {fs gs : List Field} (h : List.Forall₂ Field.Reordered fs gs) :
    gs.map (·.name) = fs.map (·.name) := by
  induction h with
  | nil => rfl
  | cons hfield _ ih => rw [List.map_cons, List.map_cons, hfield.name, ih]

namespace Model

variable {m n : Model}

namespace Reordered

theorem perm_clauses (h : m.Reordered n) (hkeys : ∀ f ∈ m.fields, f.rules.keys.Nodup) :
    n.clauses.Perm m.clauses := by
  obtain ⟨hmoved, hfields⟩ := h
  have hinside := perm_flatMap_clauses hfields fun f hf => hkeys f (hmoved.mem_iff.mp hf)
  exact hinside.trans (hmoved.flatMap_right Field.clauses)

theorem perm_fieldNames (h : m.Reordered n) : n.fieldNames.Perm m.fieldNames := by
  obtain ⟨hmoved, hfields⟩ := h
  rw [fieldNames, fieldNames, map_name_eq hfields]
  exact hmoved.map _

theorem effectiveOwner_eq (h : m.Reordered n) : n.effectiveOwner = m.effectiveOwner := by
  have hnames : n.fieldNames.contains m.owner = m.fieldNames.contains m.owner :=
    h.perm_fieldNames.contains_eq
  obtain ⟨hmoved, hfields⟩ := h
  rw [effectiveOwner, effectiveOwner, hnames]

theorem ownerGuard_eq (h : m.Reordered n) : n.ownerGuard = m.ownerGuard := by
  rw [ownerGuard, ownerGuard, h.effectiveOwner_eq]

theorem accessLines_eq (h : m.Reordered n) : n.accessLines = m.accessLines := by
  have hguard := h.ownerGuard_eq
  obtain ⟨hmoved, hfields⟩ := h
  rw [accessLines, accessLines, allowances, allowances, hguard]

end Reordered

/-- Moving fields, and rules inside of fields, moves clauses and changes none of
them, and it leaves the access block alone. -/
theorem clauses_reordered (h : m.Reordered n) (hkeys : ∀ f ∈ m.fields, f.rules.keys.Nodup) :
    (n.clauses.map Clause.text).Perm (m.clauses.map Clause.text)
      ∧ n.ownerGuard.text = m.ownerGuard.text
      ∧ n.accessBlock = m.accessBlock
      ∧ ∀ f ∈ m.fields, ∀ g, f.Reordered g → ∀ pattern,
          (.emptyOrMatches f.name pattern ∈ g.clauses
            ↔ (∃ value, f.Sets .regex value ∧ value.display = pattern)
              ∧ ∃ value, f.Sets .canBeEmpty value)
          ∧ (.matchesPattern f.name pattern ∈ g.clauses
            ↔ (∃ value, f.Sets .regex value ∧ value.display = pattern)
              ∧ ¬ ∃ value, f.Sets .canBeEmpty value) := by
  refine ⟨(h.perm_clauses hkeys).map _, by rw [h.ownerGuard_eq], ?_, fun f hf g hg pattern => ?_⟩
  · rw [accessBlock, accessBlock, h.accessLines_eq]
  · have hclause : ∀ mayBeEmpty, patternClause mayBeEmpty f.name pattern ∈ g.clauses
        ↔ (∃ value, f.Sets .regex value ∧ value.display = pattern)
          ∧ f.canBeEmpty = mayBeEmpty := by
      intro mayBeEmpty
      rw [(hg.perm_clauses (hkeys f hf)).mem_iff]
      exact Field.patternClause_mem_clauses_iff
    rw [← Field.canBeEmpty_iff (hkeys f hf), Bool.not_eq_true]
    exact ⟨hclause true, hclause false⟩

/-- The leave to be empty moves from behind a pattern to before it, in a field that
moves to the end. -/
theorem clauses_reordered_leaveFirst :
    ∃ m n : Model, m.Reordered n ∧ (∀ f ∈ m.fields, f.rules.keys.Nodup)
      ∧ m.clauses.map Clause.text
          = [Text.ofString "(data.f == '' || data.f.matches('b'))",
            Text.ofString "data.g is string"]
      ∧ n.clauses.map Clause.text
          = [Text.ofString "data.g is string",
            Text.ofString "(data.f == '' || data.f.matches('b'))"]
      ∧ (n.clauses.map Clause.text).Perm (m.clauses.map Clause.text)
      ∧ n.accessBlock = m.accessBlock := by
  have hfields : List.Forall₂ Field.Reordered
      [⟨"g", [("type", .string "string")]⟩,
        ⟨"f", [("regex", .string "b"), ("canBeEmpty", .bool true)]⟩]
      [⟨"g", [("type", .string "string")]⟩,
        ⟨"f", [("canBeEmpty", .bool true), ("regex", .string "b")]⟩] :=
    .cons ⟨rfl, .refl _⟩ (.cons ⟨rfl, .swap _ _ _⟩ .nil)
  have hreordered : Model.Reordered
      { name := "a", owner := "g", update := true, fields :=
        [⟨"f", [("regex", .string "b"), ("canBeEmpty", .bool true)]⟩,
          ⟨"g", [("type", .string "string")]⟩] } _ := .mk (.swap _ _ _) hfields
  have hresult := clauses_reordered hreordered (by decide)
  exact ⟨_, _, hreordered, by decide, by decide, by decide, hresult.1, hresult.2.2.1⟩

end Model

end SecurityRules
