import SecurityRules.Proofs.CheckLinking
import SecurityRules.Proofs.CompiledRules

/-!
# Settings without effect

A schema may say more than its document shows. Rules of no known kind and blank
rules have no clause, a field that may be left empty differs from others only
where it has a pattern, and an owner counts only if it is a field of the model
and somebody asks for it. `Schema.effective` drops all of these, and
`Schema.compile_effective` says that the document stays as it is.

The settings are not independent of one another. Whether a field may be left
empty changes the clause of its pattern, from whatever place among the rules it
stands in, and a field without rules may still be the owner, so no field is
dropped.
-/

namespace SecurityRules

/-- Whether a field has a pattern that is not blank. -/
def Field.hasPattern (f : Field) : Bool :=
  f.rules.any fun e => e.1 = Kind.regex.key && !e.2.isBlank

/-- Whether a rule has a say in the clauses of its field. -/
def Field.heeds (f : Field) (e : Text × Json) : Bool :=
  match Kind.ofKey? e.1 with
  | none => false
  | some .canBeEmpty => !e.2.isBlank && f.hasPattern
  | some _ => !e.2.isBlank

/-- A field with those of its rules that have a say. -/
def Field.effective (f : Field) : Field :=
  { f with rules := f.rules.filter f.heeds }

/-- A model with the rules that have a say, and with its owner only if that is
one of its fields and update or delete asks for it. -/
def Model.effective (m : Model) : Model :=
  { m with
    owner := if m.owner ∈ m.fieldNames ∧ m.requiresOwner then m.owner else []
    fields := m.fields.map Field.effective }

/-- A schema without the settings that have no effect. -/
def Schema.effective (s : Schema) : Schema :=
  s.map Model.effective

/-! ## Rules -/

theorem Record.get?_filter {α : Type} {p : Text × α → Bool} {r : Record α} (h : r.keys.Nodup)
    (key : Text) : Record.get? key (r.filter p) = (r.get? key).filter fun a => p (key, a) := by
  have hfilter : Record.keys (r.filter p) |>.Nodup := h.sublist (List.filter_sublist.map _)
  ext a
  rw [Record.get?_eq_some_iff hfilter, List.mem_filter, Option.filter_eq_some_iff,
    Record.get?_eq_some_iff h]

namespace Field

variable {f : Field}

theorem heeds_canBeEmpty (hpattern : f.hasPattern) (value : Json) :
    f.heeds (Kind.canBeEmpty.key, value) = !value.isBlank := by
  rw [heeds, Kind.ofKey?_eq_some_iff.mpr rfl]
  simp [hpattern]

/-- Where a field has a pattern, it is kept whether the field may be left empty. -/
theorem canBeEmpty_effective (h : f.rules.keys.Nodup) (hpattern : f.hasPattern) :
    f.effective.canBeEmpty = f.canBeEmpty := by
  unfold canBeEmpty rule effective
  rw [Record.get?_filter h]
  simp only [heeds_canBeEmpty hpattern]
  cases f.rules.get? Kind.canBeEmpty.key with
  | none => rfl
  | some value =>
      rw [Option.filter_some, Option.getD_some]
      cases hblank : value.isBlank with
      | false => exact congrArg not hblank
      | true => rfl

/-- The clause of a rule, if its key is that of a known kind. -/
def ruleClause? (f : Field) (e : Text × Json) : Option Clause :=
  (Kind.ofKey? e.1).bind fun kind => f.clause? kind e.2

theorem clauses_eq (f : Field) : f.clauses = f.rules.filterMap f.ruleClause? := by
  rw [clauses, constraints, List.filterMap_filterMap]
  congr 1
  funext e
  obtain ⟨key, value⟩ := e
  exact Option.bind_map

theorem hasPattern_of_mem {e : Text × Json} (he : e ∈ f.rules)
    (hkind : Kind.ofKey? e.1 = some .regex) (hfilled : e.2.isBlank = false) : f.hasPattern := by
  refine List.any_eq_true.mpr ⟨e, he, ?_⟩
  simp [Kind.ofKey?_eq_some_iff.mp hkind, hfilled]

/-- A rule that has no say has no clause, and the clause of any other is the same
without those. -/
theorem ruleClause?_effective (h : f.rules.keys.Nodup) {e : Text × Json} (he : e ∈ f.rules) :
    (if f.heeds e then f.effective.ruleClause? e else none) = f.ruleClause? e := by
  unfold heeds ruleClause?
  cases hkind : Kind.ofKey? e.1 with
  | none => rfl
  | some kind =>
      cases hblank : e.2.isBlank with
      | true =>
          have hnone : f.clause? kind e.2 = none := if_pos hblank
          cases kind <;> simp [hnone]
      | false =>
          cases kind with
          | type | minLength | maxLength => simp [clause?, effective]
          | regex =>
              have hempty := canBeEmpty_effective h (hasPattern_of_mem he hkind hblank)
              simp only [Bool.not_false, if_true, Option.bind_some, clause?, hempty]
              rfl
          | canBeEmpty =>
              have hnone : ∀ g : Field, g.clause? .canBeEmpty e.2 = none := fun g => by
                simp [clause?, Kind.clause?]
              simp [hnone]

theorem clauses_effective (h : f.rules.keys.Nodup) : f.effective.clauses = f.clauses := by
  rw [clauses_eq, clauses_eq, effective, List.filterMap_filter]
  exact List.filterMap_congr fun e he => ruleClause?_effective h he

end Field

/-! ## Models -/

namespace Model

variable {m : Model}

theorem fieldNames_effective (m : Model) : m.effective.fieldNames = m.fieldNames := by
  rw [fieldNames, fieldNames, effective, List.map_map]
  rfl

theorem clauses_effective (h : ∀ f ∈ m.fields, f.rules.keys.Nodup) :
    m.effective.clauses = m.clauses := by
  rw [clauses, clauses, effective, List.flatMap_map]
  exact List.flatMap_congr fun f hf => Field.clauses_effective (h f hf)

theorem effectiveOwner_effective (hrequired : m.requiresOwner) :
    m.effective.effectiveOwner = m.effectiveOwner := by
  unfold effectiveOwner
  rw [fieldNames_effective]
  by_cases howner : m.owner ∈ m.fieldNames
  · have hkept : m.effective.owner = m.owner := if_pos ⟨howner, hrequired⟩
    rw [hkept]
  · have hdropped : m.effective.owner = [] := if_neg fun h => howner h.1
    rw [hdropped]
    simp [howner]

theorem sameRules_effective (h : ∀ f ∈ m.fields, f.rules.keys.Nodup) :
    SameRules m.effective m where
  name := rfl
  clauses := by rw [clauses_effective h]
  readAll := rfl
  readOne := rfl
  create := rfl
  update := rfl
  delete := rfl
  owner hasked := effectiveOwner_effective (Bool.or_eq_true_iff.mpr hasked)

end Model

/-! ## Documents -/

theorem Schema.documentLines_effective {s : Schema}
    (h : ∀ m ∈ s, ∀ f ∈ m.fields, f.rules.keys.Nodup) :
    s.effective.documentLines = s.documentLines := by
  rw [Schema.documentLines_eq_iff, Schema.effective, List.forall₂_map_left_iff, List.forall₂_same]
  exact fun m hm => Model.sameRules_effective (h m hm)

/-- The document of a schema is that of its effective settings, so schemas that
differ only in others have the same document. -/
theorem Schema.compile_effective {v : Json} (hv : v.DistinctKeys) {a : Schema}
    (ha : Schema.ofJson v = .ok a) :
    a.effective.compile = a.compile
      ∧ ∀ (w : Json) (b : Schema), w.DistinctKeys → Schema.ofJson w = .ok b →
          b.effective = a.effective → b.compile = a.compile := by
  have hcompile : ∀ {v : Json} {s : Schema}, v.DistinctKeys → Schema.ofJson v = .ok s →
      s.effective.compile = s.compile := by
    intro v s hv hs
    rw [Schema.compile, Schema.compile, Schema.documentLines_effective (hv.nodup_rules hs)]
  refine ⟨hcompile hv ha, fun w b hw hb heq => ?_⟩
  rw [← hcompile hw hb, heq, hcompile hv ha]

/-- An owner that nobody asks for, a blank bound, a rule of no known kind, and leave
to be empty where there is no pattern, next to the same model without them. -/
theorem Schema.compile_effective_idle :
    ∃ v w a b, v.DistinctKeys ∧ w.DistinctKeys ∧ Schema.ofJson v = .ok a
      ∧ Schema.ofJson w = .ok b ∧ a ≠ b ∧ a.effective.compile = a.compile
      ∧ b.compile = a.compile := by
  have hreadv : Json.read
      ("[\x7b\"name\":\"a\",\"ownerField\":\"f\",\"fields\":[\x7b\"name\":\"f\",\"rules\":"
        ++ "\x7b\"canBeEmpty\":true,\"maxLength\":0,\"note\":1,\"type\":\"b\"\x7d\x7d]\x7d]")
      = .ok (.array [.object [("name", .string "a"), ("ownerField", .string "f"),
          ("fields", .array [.object [("name", .string "f"), ("rules", .object [
            ("canBeEmpty", .bool true), ("maxLength", .int 0), ("note", .int 1),
            ("type", .string "b")])]])]]) := by
    decide +kernel
  have hreadw : Json.read "\x7b\"a\": \x7b\"f\": \x7b\"type\": \"b\"\x7d\x7d\x7d"
      = .ok (.object [("a", .object [("f", .object [("type", .string "b")])])]) := by
    decide +kernel
  have hkeysv := (Json.readable_of_read hreadv).distinctKeys
  have hkeysw := (Json.readable_of_read hreadw).distinctKeys
  have hcompile := Schema.compile_effective hkeysv rfl
  exact ⟨_, _, _, _, hkeysv, hkeysw, rfl, rfl, by decide, hcompile.1,
    hcompile.2 _ _ hkeysw rfl rfl⟩

end SecurityRules
