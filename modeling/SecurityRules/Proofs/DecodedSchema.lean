import SecurityRules.Proofs.RuleNormalForm
import SecurityRules.Schema.Decode

/-!
# What a decoded schema is made of

Both encodings hand the names and the rules of a schema on from the value that
was decoded, and only normalise the rules. So a property of JSON values that
goes over to the parts of a value and survives normalising goes over to every
name and to all rules of the schema. `Inherited` collects what is asked of the
property, and `holds_of_ofJson` says that it is enough.
-/

namespace SecurityRules

/-! ## Validated values -/

namespace Validated

variable {α β : Type}

theorem map_eq_valid {f : α → β} {x : Validated α} {b : β} (h : f <$> x = valid b) :
    ∃ a, x = valid a ∧ f a = b := by
  cases x with
  | valid a =>
      cases h
      exact ⟨a, rfl, rfl⟩
  | invalid issues => cases h

theorem seq_eq_valid {f : Validated (α → β)} {x : Validated α} {b : β}
    (h : f <*> x = valid b) : ∃ g a, f = valid g ∧ x = valid a ∧ g a = b := by
  cases f with
  | valid g =>
      cases x with
      | valid a =>
          cases h
          exact ⟨g, a, rfl, rfl, rfl⟩
      | invalid issues => cases h
  | invalid issues => cases x <;> cases h

theorem under_eq_valid {step : PathStep} {x : Validated α} {a : α} (h : x.under step = valid a) :
    x = valid a := by
  cases x with
  | valid a => exact h
  | invalid issues => cases h

theorem result_eq_ok {subject : Subject} {x : Validated α} {a : α}
    (h : x.result subject = .ok a) : x = valid a := by
  cases x with
  | valid a =>
      cases h
      rfl
  | invalid issues => cases h

end Validated

theorem Record.mem_of_get? {α : Type} {key : Text} {r : Record α} {a : α}
    (h : r.get? key = some a) : (key, a) ∈ r := by
  induction r with
  | nil => cases h
  | cons e r ih =>
      obtain ⟨k, old⟩ := e
      rw [get?] at h
      split at h
      · next hk =>
          cases h
          simp [hk]
      · exact List.mem_cons_of_mem _ (ih h)

/-- Where every key stands only once, looking one up finds its entry. -/
theorem Record.get?_eq_some_iff {α : Type} {r : Record α} (h : r.keys.Nodup) {key : Text} {a : α} :
    r.get? key = some a ↔ (key, a) ∈ r := by
  refine ⟨Record.mem_of_get?, fun hmem => ?_⟩
  induction r with
  | nil => cases hmem
  | cons e r ih =>
      obtain ⟨k, old⟩ := e
      obtain ⟨hk, htail⟩ := List.nodup_cons.mp h
      rcases List.mem_cons.mp hmem with heq | hmem
      · cases heq
        exact if_pos rfl
      · have hne : k ≠ key := by
          rintro rfl
          exact hk (List.mem_map.mpr ⟨_, hmem, rfl⟩)
        rw [get?, if_neg hne, ih htail hmem]

/-- An attribute is its default or was decoded from one of the entries. -/
theorem setting_eq_valid {α : Type} {camel snake : Text} {default : α}
    {decode : Json → Validated α} {entries : Record Json} {a : α}
    (h : setting camel snake default decode entries = .valid a) :
    a = default ∨ ∃ e ∈ entries, decode e.2 = .valid a := by
  unfold setting at h
  split at h
  · cases h
    exact Or.inl rfl
  · next key value hfound =>
      refine Or.inr ⟨(key, value), ?_, Validated.under_eq_valid h⟩
      unfold setting? at hfound
      split at hfound
      · next v hv =>
          cases hfound
          exact Record.mem_of_get? hv
      · obtain ⟨v, hv, heq⟩ := Option.map_eq_some_iff.mp hfound
        cases heq
        exact Record.mem_of_get? hv

/-! ## Inherited properties -/

/-- A property that a value hands on to its parts and that survives normalising. -/
structure Inherited (P : Json → Prop) : Prop where
  noText : P (.string [])
  noRules : P (.object [])
  item : ∀ {items : List Json}, P (.array items) → ∀ v ∈ items, P v
  key : ∀ {entries : Record Json}, P (.object entries) → ∀ e ∈ entries, P (.string e.1)
  value : ∀ {entries : Record Json}, P (.object entries) → ∀ e ∈ entries, P e.2
  normal : ∀ {rules normal : Record Json}, P (.object rules) → normalRules rules = .ok normal →
    P (.object normal)

/-- A field whose name and rules have a property, with the rules in normal form. -/
structure Field.Holds (P : Json → Prop) (f : Field) : Prop where
  name : P (.string f.name)
  rules : P (.object f.rules)
  normal : NormalRules f.rules

structure Model.Holds (P : Json → Prop) (m : Model) : Prop where
  name : P (.string m.name)
  owner : P (.string m.owner)
  fields : ∀ f ∈ m.fields, f.Holds P

namespace Inherited

variable {P : Json → Prop} (hP : Inherited P)

include hP

theorem decodeName {v : Json} (hv : P v) {s : Text} (h : decodeName v = .valid s) :
    P (.string s) := by
  unfold SecurityRules.decodeName at h
  split at h
  · cases h
    exact hP.noText
  · unfold Json.scalar at h
    split at h <;> cases h
    exact hv

theorem name {camel snake : Text} {entries : Record Json} (hentries : P (.object entries))
    {s : Text} (h : setting camel snake [] SecurityRules.decodeName entries = .valid s) :
    P (.string s) := by
  rcases setting_eq_valid h with rfl | ⟨e, he, hs⟩
  · exact hP.noText
  · exact hP.decodeName (hP.value hentries e he) hs

theorem rules {v : Json} (hv : P v) {rules : Record Json} (h : decodeRules v = .valid rules) :
    P (.object rules) ∧ NormalRules rules := by
  unfold decodeRules at h
  split at h
  · split at h
    · next normal hnormal =>
        cases h
        exact ⟨hP.normal hv hnormal, normal_of_normalRules hnormal⟩
    · cases h
  · cases h

theorem fieldDecode {v : Json} (hv : P v) {f : Field} (h : Field.decode v = .valid f) :
    f.Holds P := by
  unfold Field.decode at h
  split at h
  · next entries =>
      obtain ⟨make, rules, hmake, hrules, rfl⟩ := Validated.seq_eq_valid h
      obtain ⟨name, hname, rfl⟩ := Validated.map_eq_valid hmake
      rcases setting_eq_valid hrules with rfl | ⟨e, he, hdecoded⟩
      · exact ⟨hP.name hv hname, hP.noRules, by simp [NormalRules]⟩
      · obtain ⟨hheld, hnormal⟩ := hP.rules (hP.value hv e he) hdecoded
        exact ⟨hP.name hv hname, hheld, hnormal⟩
  · cases h

theorem decodeItems {items : List Json} (hitems : ∀ v ∈ items, P v) {i : Nat} {fields : List Field}
    (h : decodeItems Field.decode i items = .valid fields) : ∀ f ∈ fields, f.Holds P := by
  induction items generalizing i fields with
  | nil =>
      cases h
      simp
  | cons v items ih =>
      obtain ⟨make, rest, hmake, hrest, rfl⟩ := Validated.seq_eq_valid h
      obtain ⟨f, hf, rfl⟩ := Validated.map_eq_valid hmake
      intro g hg
      rcases List.mem_cons.mp hg with rfl | hg
      · exact hP.fieldDecode (hitems v (by simp)) (Validated.under_eq_valid hf)
      · exact ih (fun w hw => hitems w (by simp [hw])) hrest g hg

theorem decodeFields {v : Json} (hv : P v) {fields : List Field}
    (h : decodeList Field.decode v = .valid fields) : ∀ f ∈ fields, f.Holds P := by
  unfold decodeList at h
  split at h
  · exact hP.decodeItems (hP.item hv) h
  · cases h

theorem modelDecode {v : Json} (hv : P v) {m : Model} (h : Model.decode v = .valid m) :
    m.Holds P := by
  unfold Model.decode at h
  split at h
  · -- the attributes come off one by one, the last first; the flags hand nothing on
    obtain ⟨_, fields, hdelete, hfields, rfl⟩ := Validated.seq_eq_valid h
    obtain ⟨_, _, hupdate, -, rfl⟩ := Validated.seq_eq_valid hdelete
    obtain ⟨_, _, hcreate, -, rfl⟩ := Validated.seq_eq_valid hupdate
    obtain ⟨_, _, hreadOne, -, rfl⟩ := Validated.seq_eq_valid hcreate
    obtain ⟨_, _, hreadAll, -, rfl⟩ := Validated.seq_eq_valid hreadOne
    obtain ⟨_, _, hnamed, -, rfl⟩ := Validated.seq_eq_valid hreadAll
    obtain ⟨_, owner, hmake, howner, rfl⟩ := Validated.seq_eq_valid hnamed
    obtain ⟨name, hname, rfl⟩ := Validated.map_eq_valid hmake
    refine ⟨hP.name hv hname, hP.name hv howner, ?_⟩
    rcases setting_eq_valid hfields with rfl | ⟨e, he, hdecoded⟩
    · simp
    · exact hP.decodeFields (hP.value hv e he) hdecoded
  · cases h

theorem ofPersisted {items : List Json} (hitems : ∀ v ∈ items, P v) {s : Schema}
    (h : ofPersisted items = .ok s) : ∀ m ∈ s, m.Holds P := by
  induction items generalizing s with
  | nil =>
      cases h
      simp
  | cons v items ih =>
      rw [SecurityRules.ofPersisted] at h
      split at h
      · cases h
      · next m hm =>
          obtain ⟨rest, hrest, rfl⟩ := exceptMap_eq_ok h
          intro n hn
          rcases List.mem_cons.mp hn with rfl | hn
          · exact hP.modelDecode (hitems v (by simp)) (Validated.result_eq_ok hm)
          · exact ih (fun w hw => hitems w (by simp [hw])) hrest n hn

theorem ofFlattenedFields {model : Text} {entries : Record Json}
    (hkeys : ∀ e ∈ entries, P (.string e.1)) (hvalues : ∀ e ∈ entries, P e.2) {fields : List Field}
    (h : ofFlattenedFields model entries = .ok fields) : ∀ f ∈ fields, f.Holds P := by
  induction entries generalizing fields with
  | nil =>
      cases h
      simp
  | cons e entries ih =>
      obtain ⟨name, v⟩ := e
      cases v with
      | object rules =>
          rw [SecurityRules.ofFlattenedFields] at h
          split at h
          · cases h
          · next normal hnormal =>
              obtain ⟨rest, hrest, rfl⟩ := exceptMap_eq_ok h
              intro f hf
              rcases List.mem_cons.mp hf with rfl | hf
              · exact ⟨hkeys _ List.mem_cons_self,
                  hP.normal (hvalues _ List.mem_cons_self) hnormal, normal_of_normalRules hnormal⟩
              · exact ih (fun e he => hkeys e (by simp [he])) (fun e he => hvalues e (by simp [he]))
                  hrest f hf
      | null | bool _ | int _ | float _ | string _ | array _ => cases h

theorem ofFlattened {entries : Record Json} (hkeys : ∀ e ∈ entries, P (.string e.1))
    (hvalues : ∀ e ∈ entries, P e.2) {s : Schema} (h : ofFlattened entries = .ok s) :
    ∀ m ∈ s, m.Holds P := by
  induction entries generalizing s with
  | nil =>
      cases h
      simp
  | cons e entries ih =>
      obtain ⟨name, v⟩ := e
      cases v with
      | object rules =>
          rw [SecurityRules.ofFlattened] at h
          split at h
          · cases h
          · next fields hfields =>
              obtain ⟨rest, hrest, rfl⟩ := exceptMap_eq_ok h
              have hobject : P (.object rules) := hvalues _ List.mem_cons_self
              intro m hm
              rcases List.mem_cons.mp hm with rfl | hm
              · exact ⟨hkeys _ List.mem_cons_self, hP.noText,
                  hP.ofFlattenedFields (hP.key hobject) (hP.value hobject) hfields⟩
              · exact ih (fun e he => hkeys e (by simp [he])) (fun e he => hvalues e (by simp [he]))
                  hrest m hm
      | null | bool _ | int _ | float _ | string _ | array _ => cases h

/-- What a value hands on holds throughout the schema it encodes. -/
theorem holds_of_ofJson {v : Json} (hv : P v) {s : Schema} (h : Schema.ofJson v = .ok s) :
    ∀ m ∈ s, m.Holds P := by
  unfold Schema.ofJson at h
  split at h
  · exact hP.ofPersisted (hP.item hv) h
  · exact hP.ofFlattened (hP.key hv) (hP.value hv) h
  · cases h

end Inherited

theorem inherited_true : Inherited fun _ => True :=
  ⟨trivial, trivial, fun _ _ _ => trivial, fun _ _ _ => trivial, fun _ _ _ => trivial,
    fun _ _ => trivial⟩

/-- The rules of a decoded schema are in normal form. -/
theorem Schema.normal_of_ofJson {v : Json} {s : Schema} (h : Schema.ofJson v = .ok s) :
    ∀ m ∈ s, ∀ f ∈ m.fields, NormalRules f.rules :=
  fun m hm f hf => ((inherited_true.holds_of_ofJson trivial h m hm).fields f hf).normal

end SecurityRules
