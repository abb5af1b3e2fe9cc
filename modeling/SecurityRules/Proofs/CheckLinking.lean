import SecurityRules.Check.Basic
import SecurityRules.Proofs.DecodedSchema
import SecurityRules.Ruleset.Access
import SecurityRules.Ruleset.Validator

/-!
# The check decides whether generated code links

A rules document declares one function for each model and calls functions in two
places: a clause calls the function of the model that a field refers to, and the
access block of a model calls the model's own. `Links` says that the calls and
the declarations fit together, both as they are written. The check never looks at
the text; it looks at the `type` rule of each field. That both see the same
references is the main step here, and it rests on a rule standing under its key
only once.
-/

namespace SecurityRules

/-! ## Declarations and calls -/

/-- The line that opens a model's validation function names the function. -/
def Model.Declares (m : Model) (function : Text) : Prop :=
  ∃ body, m.validatorLines = ⟨2, "function " ++ function ++ "(" ++ "data" ++ ") \x7b"⟩ :: body

/-- Some model declares a function. -/
def Schema.Declares (s : Schema) (function : Text) : Prop :=
  ∃ m ∈ s, m.Declares function

/-- No function is declared twice, and every function that is called is declared. -/
structure Schema.Links (s : Schema) : Prop where
  distinct : s.Pairwise fun m n => ∀ function, m.Declares function → ¬ n.Declares function
  resolved : ∀ m ∈ s, ∀ function ∈ m.callees, s.Declares function

theorem Model.declares_iff {m : Model} {function : Text} :
    m.Declares function ↔ function = validatorName m.name := by
  constructor
  · rintro ⟨body, h⟩
    simp only [Model.validatorLines, functionLines, List.cons_append, List.nil_append,
      List.cons.injEq, Line.mk.injEq, true_and] at h
    simp only [List.append_cancel_right_eq, List.append_cancel_left_eq] at h
    exact h.1.symm
  · rintro rfl
    exact ⟨_, rfl⟩

instance (m : Model) (function : Text) : Decidable (m.Declares function) :=
  decidable_of_iff _ Model.declares_iff.symm

instance (s : Schema) (function : Text) : Decidable (s.Declares function) :=
  inferInstanceAs (Decidable (∃ m ∈ s, m.Declares function))

theorem Schema.declares_iff {s : Schema} {function : Text} :
    s.Declares function ↔ function ∈ s.functions := by
  simp only [Schema.Declares, Model.declares_iff, Schema.functions, List.mem_map]
  exact ⟨fun ⟨m, hm, h⟩ => ⟨m, hm, h.symm⟩, fun ⟨m, hm, h⟩ => ⟨m, hm, h.symm⟩⟩

theorem Schema.pairwise_declares_iff {s : Schema} :
    (s.Pairwise fun m n => ∀ function, m.Declares function → ¬ n.Declares function)
      ↔ s.functions.Nodup := by
  have hne : ∀ m n : Model, (∀ function, m.Declares function → ¬ n.Declares function)
      ↔ validatorName m.name ≠ validatorName n.name := by
    intro m n
    simp only [Model.declares_iff]
    exact ⟨fun h => h _ rfl, fun h function hm hn => h (hm.symm.trans hn)⟩
  simp only [hne, Schema.functions, List.Nodup, List.pairwise_map]

/-! ## Models that share a function -/

theorem mem_distinct {α : Type} [BEq α] [LawfulBEq α] {a : α} {l : List α} :
    a ∈ distinct l ↔ a ∈ l := by
  induction l with
  | nil => rfl
  | cons b l ih =>
      simp only [distinct, List.mem_cons, List.mem_filter, ih, bne_iff_ne]
      tauto

theorem distinct_eq_nil_iff {α : Type} [BEq α] {l : List α} : distinct l = [] ↔ l = [] := by
  cases l with
  | nil => simp [distinct]
  | cons a l => simp [distinct]

/-- As many names have a function as the function occurs. -/
theorem length_filter_function {α : Type} {function : α → Text} {names : List α} (f : Text) :
    (names.filter (function · == f)).length = (names.map function).count f := by
  rw [List.count, List.countP_map, List.countP_eq_length_filter]
  rfl

theorem duplicateNames_eq_nil_iff {α : Type} [BEq α] {function : α → Text} {names : List α} :
    duplicateNames function names = [] ↔ (names.map function).Nodup := by
  rw [List.nodup_iff_count_le_one]
  simp only [duplicateNames, List.flatMap_eq_nil_iff, mem_distinct, length_filter_function]
  constructor
  · intro h f
    by_contra hcount
    have hempty := h f (List.count_pos_iff.mp (by omega))
    rw [if_pos (by omega), distinct_eq_nil_iff] at hempty
    rw [← length_filter_function, hempty] at hcount
    exact hcount (by simp)
  · intro h f _
    rw [if_neg (by have := h f; omega)]

/-! ## References -/

/-- The model that the value of a `type` rule names, unless it is blank or built in. -/
def Json.reference? (type : Json) : Option Text :=
  if !type.isBlank && !isPrimitiveType type.display then some type.display else none

theorem Json.display_of_reference? {type : Json} {target : Text}
    (h : type.reference? = some target) : type.display = target := by
  unfold reference? at h
  split at h
  · exact Option.some.inj h
  · cases h

theorem Field.target?_clause? (f : Field) (kind : Kind) (value : Json) :
    (f.clause? kind value).bind Clause.target?
      = if kind = .type then value.reference? else none := by
  unfold Field.clause? Json.reference?
  by_cases hblank : value.isBlank
  · simp [hblank]
  · simp only [hblank]
    cases kind with
    | type => by_cases h : isPrimitiveType value.display <;> simp [h, Clause.target?]
    | regex => by_cases h : f.canBeEmpty <;> simp [h, Clause.target?]
    | minLength | maxLength | canBeEmpty => simp [Kind.clause?, Clause.target?]

theorem Record.filterMap_get? {α β : Type} {r : Record α} (h : r.keys.Nodup) (key : Text)
    (g : α → Option β) :
    r.filterMap (fun e => if e.1 = key then g e.2 else none) = ((r.get? key).bind g).toList := by
  induction r with
  | nil => rfl
  | cons e r ih =>
      obtain ⟨k, value⟩ := e
      obtain ⟨hk, hrest⟩ := List.nodup_cons.mp h
      by_cases hkey : k = key
      · -- the key stands in front, so nowhere else
        have hnone : r.filterMap (fun e => if e.1 = key then g e.2 else none) = [] := by
          rw [List.filterMap_eq_nil_iff]
          intro e he
          refine if_neg fun heq => hk ?_
          have hmem : e.1 ∈ Record.keys r := List.mem_map_of_mem he
          rwa [heq, ← hkey] at hmem
        simp only [List.filterMap_cons, if_pos hkey, hnone, get?, Option.bind_some]
        cases g value <;> rfl
      · simp only [List.filterMap_cons, if_neg hkey, get?, ih hrest]

/-- With every rule under its key only once, the clauses of a field refer to
what its `type` rule refers to. -/
theorem Field.targets_eq {f : Field} (h : f.rules.keys.Nodup) :
    f.targets = (f.rule .type).reference?.toList := by
  have hrules : f.targets
      = f.rules.filterMap fun e => if e.1 = Kind.type.key then e.2.reference? else none := by
    rw [Field.targets, Field.clauses, Field.constraints, List.filterMap_filterMap,
      List.filterMap_filterMap]
    congr 1
    funext e
    obtain ⟨key, value⟩ := e
    by_cases hkey : key = Kind.type.key
    · simp only [Kind.ofKey?_eq_some_iff.mpr hkey, Option.map_some, Option.bind_some,
        Field.target?_clause?, if_pos hkey, if_true]
    · cases hkind : Kind.ofKey? key with
      | none => simp only [hkind, Option.map_none, Option.bind_none, if_neg hkey]
      | some kind =>
          have hne : kind ≠ .type := by
            rintro rfl
            exact hkey (Kind.ofKey?_eq_some_iff.mp hkind)
          simp only [hkind, Option.map_some, Option.bind_some, Field.target?_clause?, if_neg hkey,
            if_neg hne]
  rw [hrules, Record.filterMap_get? h, Field.rule]
  cases f.rules.get? Kind.type.key <;> rfl

theorem Field.danglingTarget?_eq (defined : List Text) (f : Field) :
    f.danglingTarget? defined
      = (f.rule .type).reference?.filter fun target => validatorName target ∉ defined := by
  unfold Field.danglingTarget? Json.reference?
  by_cases hreference : !(f.rule .type).isBlank && !isPrimitiveType (f.rule .type).display
  · simp [hreference, Option.filter]
  · simp [hreference]

/-! ## Objects in which no key comes twice -/

/-- No object, at whatever depth, has a key twice. -/
inductive Json.DistinctKeys : Json → Prop
  | null : DistinctKeys .null
  | bool (b : Bool) : DistinctKeys (.bool b)
  | int (n : Int) : DistinctKeys (.int n)
  | float (x : Binary64) : DistinctKeys (.float x)
  | string (s : Text) : DistinctKeys (.string s)
  | array {items : List Json} (h : ∀ v ∈ items, DistinctKeys v) : DistinctKeys (.array items)
  | object {entries : Record Json} (hdistinct : entries.keys.Nodup)
      (h : ∀ e ∈ entries, DistinctKeys e.2) : DistinctKeys (.object entries)

theorem Json.Readable.distinctKeys {v : Json} (h : v.Readable) : v.DistinctKeys := by
  induction h with
  | null => exact .null
  | bool b => exact .bool b
  | int _ => exact .int _
  | float _ => exact .float _
  | string _ => exact .string _
  | array _ ih => exact .array ih
  | object hdistinct _ _ ih => exact .object hdistinct ih

theorem Json.DistinctKeys.normalRules {rules normal : Record Json}
    (h : DistinctKeys (.object rules)) (hnormal : normalRules rules = .ok normal) :
    DistinctKeys (.object normal) := by
  cases h with
  | object hdistinct hvalues =>
      refine .object (keys_of_normalRules hnormal ▸ hdistinct) fun e he => ?_
      obtain ⟨v, hv, hnormalises⟩ := exists_of_mem_normalRules hnormal he
      have hvalue := hvalues _ hv
      generalize e.2 = w at hnormalises
      cases hnormalises with
      | blank => exact .null
      | kept _ => exact hvalue
      | typedIn _ _ _ => exact .int _

theorem inherited_distinctKeys : Inherited Json.DistinctKeys where
  noText := .string []
  noRules := .object List.nodup_nil (by simp)
  item h v hv := by cases h with | array h => exact h v hv
  key _ e _ := .string e.1
  value h e he := by cases h with | object _ h => exact h e he
  normal h hnormal := h.normalRules hnormal

/-- Every rule of a decoded field stands under its key only once. -/
theorem Json.DistinctKeys.nodup_rules {v : Json} (hv : v.DistinctKeys) {s : Schema}
    (h : Schema.ofJson v = .ok s) : ∀ m ∈ s, ∀ f ∈ m.fields, f.rules.keys.Nodup := by
  intro m hm f hf
  cases ((inherited_distinctKeys.holds_of_ofJson hv h m hm).fields f hf).rules with
  | object hdistinct _ => exact hdistinct

/-! ## The check -/

section

variable {s : Schema} (h : ∀ m ∈ s, ∀ f ∈ m.fields, f.rules.keys.Nodup)

include h

theorem Schema.dangling_eq :
    s.check.dangling.map (fun d => (d.model, d.field, d.target, validatorName d.target))
      = s.flatMap fun m => m.fields.flatMap fun f =>
          (f.callees.filter fun function => ¬ s.Declares function).map
            fun function => (m.name, f.name, (f.rule .type).display, function) := by
  show (s.flatMap (Model.dangling s.functions)).map _ = _
  rw [List.map_flatMap]
  refine List.flatMap_congr fun m hm => ?_
  rw [Model.dangling, List.map_filterMap, List.filterMap_eq_flatMap_toList]
  refine List.flatMap_congr fun f hf => ?_
  rw [Field.callees_eq, Field.targets_eq (h m hm f hf), Field.danglingTarget?_eq]
  simp only [Schema.declares_iff]
  cases htarget : (f.rule .type).reference? with
  | none => rfl
  | some target =>
      rw [Json.display_of_reference? htarget]
      by_cases hdeclared : validatorName target ∈ s.functions <;> simp [hdeclared, Option.filter]

theorem Schema.dangling_eq_nil_iff :
    s.check.dangling = []
      ↔ ∀ m ∈ s, ∀ f ∈ m.fields, ∀ function ∈ f.callees, s.Declares function := by
  rw [← List.map_eq_nil_iff, Schema.dangling_eq h]
  simp only [List.flatMap_eq_nil_iff, List.map_eq_nil_iff, List.filter_eq_nil_iff,
    decide_eq_true_eq, not_not]

end

theorem Model.mem_callees {m : Model} {function : Text} :
    function ∈ m.callees
      ↔ (∃ f ∈ m.fields, function ∈ f.callees) ∨ function = validatorName m.name := by
  rw [Model.callees, Model.callees_allowances]
  simp only [List.mem_append, List.mem_flatMap, List.mem_cons, List.not_mem_nil, or_false, or_self]

theorem Schema.functions_eq (s : Schema) : s.functions = s.modelNames.map validatorName := by
  rw [Schema.modelNames, List.map_map]
  rfl

theorem Schema.duplicates_eq_nil_iff {s : Schema} :
    s.check.duplicates = [] ↔ s.functions.Nodup := by
  rw [Schema.functions_eq]
  exact duplicateNames_eq_nil_iff

theorem Schema.valid_check_iff {s : Schema} :
    s.check.valid = true ↔ s.check.dangling = [] ∧ s.check.duplicates = [] := by
  simp only [Schema.check, Bool.and_eq_true, List.isEmpty_iff]

/-- The check accepts a schema exactly if its document links, and it reports
exactly the calls that do not, each once and in order, with the `type` rule that
made the call. -/
theorem Schema.valid_check_iff_links {v : Json} (hv : v.DistinctKeys) {s : Schema}
    (h : Schema.ofJson v = .ok s) :
    (s.check.valid = true ↔ s.Links)
      ∧ (∀ m ∈ s, ∀ f ∈ m.fields, f.callees.length ≤ 1)
      ∧ s.check.dangling.map (fun d => (d.model, d.field, d.target, validatorName d.target))
          = s.flatMap fun m => m.fields.flatMap fun f =>
              (f.callees.filter fun function => ¬ s.Declares function).map
                fun function => (m.name, f.name, (f.rule .type).display, function) := by
  have hrules := hv.nodup_rules h
  refine ⟨?_, fun m hm f hf => ?_, Schema.dangling_eq hrules⟩
  · rw [Schema.valid_check_iff, Schema.dangling_eq_nil_iff hrules, Schema.duplicates_eq_nil_iff,
      ← Schema.pairwise_declares_iff]
    constructor
    · rintro ⟨hresolved, hdistinct⟩
      refine ⟨hdistinct, fun m hm function hcalled => ?_⟩
      rcases Model.mem_callees.mp hcalled with ⟨f, hf, hcallee⟩ | rfl
      · exact hresolved m hm f hf function hcallee
      · -- an access block calls the function of its own model
        exact ⟨m, hm, Model.declares_iff.mpr rfl⟩
    · intro hlinks
      refine ⟨fun m hm f hf function hcallee => ?_, hlinks.distinct⟩
      exact hlinks.resolved m hm function (Model.mem_callees.mpr (Or.inl ⟨f, hf, hcallee⟩))
  · rw [Field.callees_eq, Field.targets_eq (hrules m hm f hf), List.length_map]
    exact Option.length_toList_le

/-- Two models that share a function, and a reference to a third that none declares. -/
theorem Schema.valid_check_iff_links_shared :
    ∃ v s, v.DistinctKeys ∧ Schema.ofJson v = .ok s ∧ ¬ s.Links
      ∧ s.check.dangling.map (fun d => (d.model, d.field, d.target, validatorName d.target))
          = [(Text.ofString "a", Text.ofString "f", Text.ofString "c",
              Text.ofString "validateCModel")] := by
  have hread : Json.read "\x7b\"a\": \x7b\"f\": \x7b\"type\": \"c\"\x7d\x7d, \"A\": \x7b\x7d\x7d"
      = .ok (.object
          [("a", .object [("f", .object [("type", .string "c")])]), ("A", .object [])]) := by
    decide +kernel
  have hkeys := (Json.readable_of_read hread).distinctKeys
  have hdecode : Schema.ofJson
      (.object [("a", .object [("f", .object [("type", .string "c")])]), ("A", .object [])])
      = .ok [{ name := "a", fields := [{ name := "f", rules := [("type", .string "c")] }] },
          { name := "A" }] := rfl
  refine ⟨_, _, hkeys, hdecode, fun hlinks => ?_, by decide +kernel⟩
  have hvalid := (Schema.valid_check_iff_links hkeys hdecode).1.mpr hlinks
  have hrefused : (Schema.check [{ name := "a", fields :=
      [{ name := "f", rules := [("type", .string "c")] }] }, { name := "A" }]).valid = false := by
    decide +kernel
  rw [hrefused] at hvalid
  cases hvalid

end SecurityRules
