import SecurityRules.Draft.Check
import SecurityRules.Proofs.DecodedSchema

/-!
# A draft of a loaded schema has a document and a report

Compiling and checking a draft can fail in many ways, as each of its settings may hold
any value. A draft that was made from a schema holds texts for names, flags for access
settings and fields for fields, so most of these ways are closed by the type of a schema.
One is not: the type of a field is a rule, and rules hold any values. It has to be null or
a text, and that is what normal rules give.
-/

namespace SecurityRules

/-! ## What a draft reads as -/

@[simp] theorem DraftFields.fields_ofFields (fields : List Field) :
    (DraftFields.ofFields fields).fields = fields := by
  simp only [ofFields, DraftFields.fields, List.filterMap_map]
  exact List.filterMap_some

theorem DraftModel.toModel_ofModel (m : Model) : (DraftModel.ofModel m).toModel = m := by
  obtain ⟨name, owner, readAll, readOne, create, update, delete, fields⟩ := m
  cases readOne with
  | none => simp [ofModel, toModel, textOf, Json.isBlank]
  | some required => simp [ofModel, toModel, textOf, Json.isBlank]

theorem Draft.toSchema_ofSchema (s : Schema) : (Draft.ofSchema s).toSchema = s := by
  rw [ofSchema, toSchema, List.map_map]
  exact (List.map_congr_left fun m _ => DraftModel.toModel_ofModel m).trans s.map_id

theorem DraftFields.fault?_ofFields {α : Type} (part : Text) (ofFault : FieldsFault → α)
    (ofField : Field → Option α) (fields : List Field) :
    (DraftFields.ofFields fields).fault? part ofFault ofField = fields.findSome? ofField := by
  rw [fault?, ofFields, items]
  simp only [List.findSome?_map]
  rfl

/-! ## Compiling -/

/-- The type of a field is null or a text. -/
theorem Field.typeFault?_eq_none {f : Field} (h : NormalRules f.rules) : f.typeFault? = none := by
  have htype : f.rule .type = .null ∨ ∃ s, f.rule .type = .string s := by
    unfold rule
    cases hget : f.rules.get? Kind.type.key with
    | none => exact Or.inl rfl
    | some v =>
        have hnormal := h _ (Record.mem_of_get? hget)
        rcases hnormal.typed .type (Kind.ofKey?_eq_some_iff.mpr rfl) with hnull | hadmits
        · exact Or.inl hnull
        · cases v with
          | string s => exact Or.inr ⟨s, rfl⟩
          | null | bool _ | int _ | float _ | array _ | object _ => cases hadmits
  rcases htype with hnull | ⟨s, hs⟩
  · rw [typeFault?, hnull]
    rfl
  · rw [typeFault?, hs]
    rfl

section

variable {s : Schema} (h : ∀ m ∈ s, ∀ f ∈ m.fields, NormalRules f.rules)

include h

theorem DraftModel.fault?_ofModel : ∀ m ∈ s, (DraftModel.ofModel m).fault? = none := by
  intro m hm
  have hfields : m.fields.findSome? (fun f => f.typeFault?.map CompileFault.name) = none := by
    rw [List.findSome?_eq_none_iff]
    intro f hf
    rw [Field.typeFault?_eq_none (h m hm f hf)]
    rfl
  rw [fault?, ofModel, DraftFields.fault?_ofFields, hfields]
  rfl

theorem Draft.compile_ofSchema : (Draft.ofSchema s).compile = .ok s.compile := by
  have hfault : (Draft.ofSchema s).findSome? DraftModel.fault? = none := by
    rw [ofSchema, List.findSome?_map, List.findSome?_eq_none_iff]
    exact DraftModel.fault?_ofModel h
  have hmodel : ∀ m, (DraftModel.ofModel m).toModel = m := DraftModel.toModel_ofModel
  rw [compile, hfault]
  simp only [ofSchema, List.map_map, Schema.compile, Schema.documentLines, Function.comp_def,
    DraftModel.accessLines, hmodel]
  rfl

/-! ## Checking -/

omit h in
theorem mem_of_mem_distinct {α : Type} [BEq α] {a : α} {l : List α} (ha : a ∈ distinct l) :
    a ∈ l := by
  induction l with
  | nil => exact ha
  | cons b l ih =>
      rcases List.mem_cons.mp ha with rfl | ha
      · exact List.mem_cons_self
      · exact List.mem_cons_of_mem _ (ih (List.mem_filter.mp ha).1)

omit h in
theorem mem_of_mem_duplicateNames {α : Type} [BEq α] {function : α → Text} {names : List α}
    {n : α} (hn : n ∈ duplicateNames function names) : n ∈ names := by
  obtain ⟨f, -, hf⟩ := List.mem_flatMap.mp hn
  simp only at hf
  split at hf
  · exact (List.mem_filter.mp (mem_of_mem_distinct hf)).1
  · cases hf

omit h in
theorem Draft.exists_of_mem_names {name : Json} (hname : name ∈ (Draft.ofSchema s).names) :
    ∃ t, name = .string t := by
  rw [names, ofSchema, List.map_map] at hname
  obtain ⟨m, -, rfl⟩ := List.mem_map.mp hname
  exact ⟨m.name, rfl⟩

omit h in
theorem Draft.exists_of_mem_duplicates {name : Json}
    (hname : name ∈ (Draft.ofSchema s).duplicates) : ∃ t, name = .string t :=
  exists_of_mem_names (@mem_of_mem_duplicateNames _ ⟨sameName⟩ _ _ _ hname)

omit h in
theorem Draft.requireName_string (subject : Subject) (name : Text) :
    Draft.requireName subject (.string name) = none := rfl

theorem Draft.fieldFault?_eq_none (defined : List Text) :
    ∀ m ∈ s, ∀ f ∈ m.fields, Draft.fieldFault? defined (.string m.name) f = none := by
  intro m hm f hf
  rw [fieldFault?, Field.typeFault?_eq_none (h m hm f hf)]
  simp only [requireName_string, ite_self]
  rfl

omit h in
theorem decodeList_text {names : List Json} (hnames : ∀ name ∈ names, ∃ t, name = .string t) :
    ∃ texts, decodeList decodeText (.array names) = .valid texts := by
  have hitems : ∀ i, ∃ texts, decodeItems decodeText i names = .valid texts := by
    induction names with
    | nil => exact fun _ => ⟨[], rfl⟩
    | cons name names ih =>
        intro i
        obtain ⟨t, rfl⟩ := hnames name (by simp)
        obtain ⟨texts, htexts⟩ := ih (fun other hother => hnames other (by simp [hother])) (i + 1)
        rw [decodeItems, htexts]
        exact ⟨t :: texts, rfl⟩
  exact hitems 0

omit h in
/-- All names are texts, so a report can hold them. -/
theorem Draft.exists_reportedNames :
    ∃ names, (Draft.ofSchema s).reportedNames = .valid names := by
  have hsome : ∀ holds : Model → Bool,
      ∀ name ∈ Draft.names ((Draft.ofSchema s).filter fun m => holds m.toModel),
        ∃ t, name = .string t := by
    intro holds name hname
    obtain ⟨m, hm, rfl⟩ := List.mem_map.mp hname
    exact exists_of_mem_names (List.mem_map_of_mem (List.mem_filter.mp hm).1)
  obtain ⟨duplicates, hduplicates⟩ :=
    decodeList_text fun name hname => exists_of_mem_duplicates (s := s) hname
  obtain ⟨ownerless, hownerless⟩ := decodeList_text (hsome Model.isOwnerless)
  obtain ⟨empty, hempty⟩ := decodeList_text (hsome Model.isEmpty)
  refine ⟨(duplicates, ownerless, empty), ?_⟩
  unfold reportedNames
  simp only
  rw [hduplicates, hownerless, hempty]
  rfl

theorem Draft.fault?_ofSchema : (Draft.ofSchema s).fault? = none := by
  have hnames : (Draft.ofSchema s).names.findSome? nameFault? = none := by
    rw [List.findSome?_eq_none_iff]
    intro name hname
    obtain ⟨t, rfl⟩ := exists_of_mem_names hname
    rfl
  have hcomparable : (Draft.ofSchema s).incomparable? = none := by
    rw [incomparable?, Option.map_eq_none_iff, List.find?_eq_none]
    intro name hname
    obtain ⟨t, rfl⟩ := exists_of_mem_duplicates hname
    exact Bool.false_ne_true
  have hfields : (Draft.ofSchema s).findSome? (fun m => m.fields.fault? "rules" DraftFault.fields
      (fieldFault? (Draft.ofSchema s).toSchema.functions m.name)) = none := by
    rw [ofSchema, List.findSome?_map, List.findSome?_eq_none_iff]
    intro m hm
    simp only [Function.comp_apply, DraftModel.ofModel, DraftFields.fault?_ofFields,
      List.findSome?_eq_none_iff]
    exact fieldFault?_eq_none h _ m hm
  obtain ⟨names, hreported⟩ := exists_reportedNames (s := s)
  unfold fault?
  simp only [hnames, hcomparable, hfields, hreported]
  rfl

theorem Draft.check_ofSchema : (Draft.ofSchema s).check = .ok s.check := by
  rw [check, fault?_ofSchema h]
  simp only [toSchema_ofSchema]

end

end SecurityRules
