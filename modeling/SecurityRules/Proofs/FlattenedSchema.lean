import SecurityRules.Proofs.DecodedSchema

/-!
# The two encodings agree

A flattened object says which fields a model has and which rules a field has,
and nothing else. The same can be said in the persisted encoding. An `Outline`
is what is said, and it has one spelling in each encoding.

Reading the two spellings goes different ways. The flattened one is read field
by field and stops at the first fault, while the persisted one is decoded model
by model with all issues collected. Both are shown to give the schema that the
outline describes, if there is one, and else nothing.
-/

namespace SecurityRules

/-- The rules of the fields of models. -/
abbrev Outline := List (Text × List (Text × Record Json))

namespace Outline

/-- The rules of the fields as a flattened model has them. -/
def flattenedFields (fields : List (Text × Record Json)) : Record Json :=
  fields.map fun (name, rules) => (name, .object rules)

def flattened (o : Outline) : Record Json :=
  o.map fun (name, fields) => (name, .object (flattenedFields fields))

/-- A field object with nothing but a name and rules. -/
def persistedField : Text × Record Json → Json
  | (name, rules) => .object [("name", .string name), ("rules", .object rules)]

/-- A model object with nothing but a name and fields. -/
def persistedModel : Text × List (Text × Record Json) → Json
  | (name, fields) =>
      .object [("name", .string name), ("fields", .array (fields.map persistedField))]

def persisted (o : Outline) : List Json :=
  o.map persistedModel

/-- A field has the name and the rules in normal form. -/
structure DescribesField (outline : Text × Record Json) (f : Field) : Prop where
  name : f.name = outline.1
  rules : normalRules outline.2 = .ok f.rules

/-- A model has the name and the fields, and grants nothing. -/
structure DescribesModel (outline : Text × List (Text × Record Json)) (m : Model) : Prop where
  name : m.name = outline.1
  owner : m.owner = []
  flags : m.readAll = false ∧ m.create = false ∧ m.update = false ∧ m.delete = false
  readOne : m.readOne = none
  fields : List.Forall₂ DescribesField outline.2 m.fields

/-- The models of a schema are those of an outline, in order. -/
def Describes (o : Outline) (s : Schema) : Prop :=
  List.Forall₂ DescribesModel o s

end Outline

open Outline

/-! ## The flattened encoding -/

theorem describesField_iff {name : Text} {rules : Record Json} {f : Field} :
    DescribesField (name, rules) f
      ↔ ∃ normal, normalRules rules = .ok normal ∧ f = ⟨name, normal⟩ := by
  constructor
  · rintro ⟨rfl, hrules⟩
    exact ⟨f.rules, hrules, rfl⟩
  · rintro ⟨normal, hrules, rfl⟩
    exact ⟨rfl, hrules⟩

theorem describesModel_iff {name : Text} {fields : List (Text × Record Json)} {m : Model} :
    DescribesModel (name, fields) m
      ↔ ∃ described, List.Forall₂ DescribesField fields described
        ∧ m = { name, fields := described } := by
  constructor
  · rintro ⟨rfl, howner, ⟨hreadAll, hcreate, hupdate, hdelete⟩, hreadOne, hfields⟩
    refine ⟨m.fields, hfields, ?_⟩
    obtain ⟨name, owner, readAll, readOne, create, update, delete, fields⟩ := m
    cases howner
    cases hreadAll
    cases hcreate
    cases hupdate
    cases hdelete
    cases hreadOne
    rfl
  · rintro ⟨described, hfields, rfl⟩
    exact ⟨rfl, rfl, ⟨rfl, rfl, rfl, rfl⟩, rfl, hfields⟩

theorem ofFlattenedFields_eq_ok_iff (model : Text) {fields : List (Text × Record Json)}
    {result : List Field} :
    ofFlattenedFields model (flattenedFields fields) = .ok result
      ↔ List.Forall₂ DescribesField fields result := by
  unfold flattenedFields
  induction fields generalizing result with
  | nil => simp [ofFlattenedFields, eq_comm]
  | cons outline fields ih =>
      obtain ⟨name, rules⟩ := outline
      rw [List.map_cons, ofFlattenedFields, List.forall₂_cons_left_iff]
      simp only [describesField_iff]
      cases normalRules rules with
      | error fault => simp
      | ok normal => simp [exceptMap_cons_eq_ok_iff, ih]

theorem ofFlattened_eq_ok_iff {o : Outline} {s : Schema} :
    ofFlattened o.flattened = .ok s ↔ o.Describes s := by
  unfold flattened Describes
  induction o generalizing s with
  | nil => simp [ofFlattened, eq_comm]
  | cons outline o ih =>
      obtain ⟨name, fields⟩ := outline
      rw [List.map_cons, ofFlattened, List.forall₂_cons_left_iff]
      simp only [describesModel_iff, ← ofFlattenedFields_eq_ok_iff name]
      cases ofFlattenedFields name (flattenedFields fields) with
      | error fault => simp
      | ok described => simp [exceptMap_cons_eq_ok_iff, ih]

/-- Only the fields of an outline can be read from a flattened model. -/
theorem eq_flattenedFields_of_ok {model : Text} {entries : Record Json} {result : List Field}
    (h : ofFlattenedFields model entries = .ok result) :
    ∃ fields, flattenedFields fields = entries := by
  fun_induction ofFlattenedFields model entries generalizing result with
  | case1 => exact ⟨[], rfl⟩
  | case2 name rules rest fault hfault => cases h
  | case3 name rules rest normal hnormal ih =>
      obtain ⟨more, hmore, -⟩ := exceptMap_cons_eq_ok_iff.mp h
      obtain ⟨fields, rfl⟩ := ih hmore
      exact ⟨(name, rules) :: fields, rfl⟩
  | case4 name value rest hvalue => cases h

theorem eq_flattened_of_ok {entries : Record Json} {s : Schema}
    (h : ofFlattened entries = .ok s) : ∃ o : Outline, o.flattened = entries := by
  fun_induction ofFlattened entries generalizing s with
  | case1 => exact ⟨[], rfl⟩
  | case2 name model rest fault hfault => cases h
  | case3 name model rest described hdescribed ih =>
      obtain ⟨more, hmore, -⟩ := exceptMap_cons_eq_ok_iff.mp h
      obtain ⟨o, rfl⟩ := ih hmore
      obtain ⟨fields, rfl⟩ := eq_flattenedFields_of_ok hdescribed
      exact ⟨(name, fields) :: o, rfl⟩
  | case4 name value rest hvalue => cases h

/-! ## The persisted encoding -/

theorem Validated.seq_under_eq_valid_iff {α β : Type} {f : α → β} {x : Validated α}
    {step : PathStep} {b : β} :
    Validated.seq (.valid f) (x.under step) = .valid b ↔ ∃ a, x = .valid a ∧ b = f a := by
  cases x with
  | valid a => simp [under, seq, eq_comm]
  | invalid issues => simp [under, seq]

theorem decodeRules_eq_valid_iff {rules normal : Record Json} :
    decodeRules (.object rules) = .valid normal ↔ normalRules rules = .ok normal := by
  rw [decodeRules]
  cases normalRules rules <;> simp [Validated.refuse]

theorem Field.decode_persistedField_iff {outline : Text × Record Json} {f : Field} :
    Field.decode (persistedField outline) = .valid f ↔ DescribesField outline f := by
  obtain ⟨name, rules⟩ := outline
  -- the look-ups under the two keys compute
  show Validated.seq (.valid (Field.mk name))
    ((decodeRules (.object rules)).under (.key "rules")) = .valid f ↔ _
  rw [Validated.seq_under_eq_valid_iff, describesField_iff]
  simp only [decodeRules_eq_valid_iff]

theorem decodeItems_persistedField_iff {fields : List (Text × Record Json)} {result : List Field}
    (i : Nat) :
    decodeItems Field.decode i (fields.map persistedField) = .valid result
      ↔ List.Forall₂ DescribesField fields result := by
  induction fields generalizing i result with
  | nil => simp [decodeItems, eq_comm]
  | cons outline fields ih =>
      rw [List.map_cons, decodeItems, List.forall₂_cons_left_iff]
      simp only [← Field.decode_persistedField_iff, ← ih (i + 1)]
      constructor
      · intro h
        obtain ⟨g, rest, hg, hrest, rfl⟩ := Validated.seq_eq_valid h
        obtain ⟨f, hf, rfl⟩ := Validated.map_eq_valid hg
        exact ⟨f, rest, Validated.under_eq_valid hf, hrest, rfl⟩
      · rintro ⟨f, rest, hf, hrest, rfl⟩
        rw [hf, hrest]
        rfl

theorem Model.ofJson_persistedModel_iff {outline : Text × List (Text × Record Json)} {m : Model} :
    Model.ofJson (persistedModel outline) = .ok m ↔ DescribesModel outline m := by
  obtain ⟨name, fields⟩ := outline
  have hdecode : Model.decode (persistedModel (name, fields)) = .valid m
      ↔ DescribesModel (name, fields) m := by
    -- no other attribute is there, so each has its default
    show Validated.seq (.valid (Model.mk name [] false none false false false))
      ((decodeItems Field.decode 0 (fields.map persistedField)).under (.key "fields")) = .valid m
        ↔ _
    rw [Validated.seq_under_eq_valid_iff, describesModel_iff]
    simp only [decodeItems_persistedField_iff]
  rw [← hdecode, Model.ofJson]
  cases Model.decode (persistedModel (name, fields)) <;> simp [Validated.result]

theorem ofPersisted_eq_ok_iff {o : Outline} {s : Schema} :
    ofPersisted o.persisted = .ok s ↔ o.Describes s := by
  unfold persisted Describes
  induction o generalizing s with
  | nil => simp [ofPersisted, eq_comm]
  | cons outline o ih =>
      rw [List.map_cons, ofPersisted, List.forall₂_cons_left_iff]
      simp only [← Model.ofJson_persistedModel_iff]
      cases Model.ofJson (persistedModel outline) with
      | error rejection => simp
      | ok m => simp [exceptMap_cons_eq_ok_iff, ih]

/-! ## Agreement -/

/-- The two spellings of an outline are read alike: as the schema that the outline
describes, or not at all. An object that is no spelling of an outline is
refused. -/
theorem Schema.ofJson_flattened_iff_persisted :
    (∀ (o : Outline) (s : Schema),
        (Schema.ofJson (.object o.flattened) = .ok s ↔ Schema.ofJson (.array o.persisted) = .ok s)
          ∧ (Schema.ofJson (.object o.flattened) = .ok s ↔ o.Describes s))
    ∧ ∀ entries : Record Json, (∀ o : Outline, entries ≠ o.flattened) →
        ∃ fault, Schema.ofJson (.object entries) = .error fault := by
  refine ⟨fun o s => ?_, fun entries hentries => ?_⟩
  · simp only [Schema.ofJson]
    exact ⟨ofFlattened_eq_ok_iff.trans ofPersisted_eq_ok_iff.symm, ofFlattened_eq_ok_iff⟩
  · rw [Schema.ofJson]
    cases hread : ofFlattened entries with
    | error fault => exact ⟨fault, rfl⟩
    | ok s =>
        obtain ⟨o, ho⟩ := eq_flattened_of_ok hread
        exact absurd ho.symm (hentries o)

/-- A length that was typed in is read alike in both spellings. A field whose rules
are a number is refused. -/
theorem Schema.ofJson_flattened_iff_persisted_typedIn :
    Schema.ofJson (.array (persisted [("a", [("f", [("maxLength", .string " 7 ")])])]))
        = .ok [{ name := "a", fields := [{ name := "f", rules := [("maxLength", .int 7)] }] }]
      ∧ ∃ fault, Schema.ofJson (.object [("a", .object [("f", .int 7)])]) = .error fault := by
  obtain ⟨hagree, hrefused⟩ := Schema.ofJson_flattened_iff_persisted
  refine ⟨?_, hrefused _ fun o ho => ?_⟩
  · have hrules : normalRules [("maxLength", .string " 7 ")] = .ok [("maxLength", .int 7)] := by
      decide +kernel
    obtain ⟨hsame, hdescribes⟩ := hagree [("a", [("f", [("maxLength", .string " 7 ")])])]
      [{ name := "a", fields := [{ name := "f", rules := [("maxLength", .int 7)] }] }]
    exact hsame.mp (hdescribes.mpr
      (.cons ⟨rfl, rfl, ⟨rfl, rfl, rfl, rfl⟩, rfl, .cons ⟨rfl, hrules⟩ .nil⟩ .nil))
  · -- the number would have to be an object
    rcases o with - | ⟨⟨model, - | ⟨⟨field, rules⟩, fields⟩⟩, o⟩ <;>
      simp [flattened, flattenedFields] at ho

end SecurityRules
