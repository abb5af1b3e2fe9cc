import SecurityRules.Check.Basic
import SecurityRules.Proofs.DecodedSchema
import SecurityRules.Proofs.JsonReadBack
import SecurityRules.Ruleset.Document
import SecurityRules.Schema.Encode

/-!
# A schema survives being saved

A schema that was loaded, from either encoding, is dumped in the persisted one
and loaded again. Nothing changes on the way: what the loader hands over can be
written and read back, its rules are in normal form already, and the keys that
are written are the ones that are looked for first.
-/

namespace SecurityRules

/-! ## Decoding what was encoded -/

theorem Field.decode_toJson {f : Field} (h : NormalRules f.rules) :
    Field.decode f.toJson = .valid f := by
  have hrules : decodeRules (.object f.rules) = .valid f.rules := by
    rw [decodeRules, h.normalRules_eq]
  have hsetting : setting "rules" "rules" [] decodeRules
      [("name", .string f.name), ("rules", .object f.rules)] = .valid f.rules := by
    show (decodeRules (.object f.rules)).under (.key "rules") = .valid f.rules
    rw [hrules]
    rfl
  rw [Field.toJson, Field.decode, hsetting]
  rfl

theorem decodeItems_toJson {fields : List Field} (h : ∀ f ∈ fields, NormalRules f.rules) (i : Nat) :
    decodeItems Field.decode i (fields.map Field.toJson) = .valid fields := by
  induction fields generalizing i with
  | nil => rfl
  | cons f fields ih =>
      rw [List.map_cons, decodeItems, Field.decode_toJson (h f (by simp)),
        ih fun g hg => h g (by simp [hg])]
      rfl

theorem Model.decode_toJson {m : Model} (h : ∀ f ∈ m.fields, NormalRules f.rules) :
    Model.decode m.toJson = .valid m := by
  have hfields : (decodeList Field.decode (.array (m.fields.map Field.toJson))).under
      (.key "fields") = .valid m.fields := by
    rw [decodeList, decodeItems_toJson h]
    rfl
  obtain ⟨name, owner, readAll, readOne, create, update, delete, fields⟩ := m
  -- the look-ups under the written keys compute, with the optional key and without it
  cases readOne with
  | none =>
      show Validated.seq (.valid (Model.mk name owner readAll none create update delete))
        ((decodeList Field.decode (.array (fields.map Field.toJson))).under (.key "fields")) = _
      rw [hfields]
      rfl
  | some required =>
      show Validated.seq (.valid (Model.mk name owner readAll (some required) create update delete))
        ((decodeList Field.decode (.array (fields.map Field.toJson))).under (.key "fields")) = _
      rw [hfields]
      rfl

theorem Schema.ofJson_toJson {s : Schema} (h : ∀ m ∈ s, ∀ f ∈ m.fields, NormalRules f.rules) :
    Schema.ofJson s.toJson = .ok s := by
  rw [Schema.toJson, Schema.ofJson]
  induction s with
  | nil => rfl
  | cons m s ih =>
      have hmodel : Model.ofJson m.toJson = .ok m := by
        rw [Model.ofJson, Model.decode_toJson (h m (by simp))]
        rfl
      rw [List.map_cons, ofPersisted, hmodel, ih fun n hn => h n (by simp [hn])]
      rfl

/-! ## Encoding into readable values -/

theorem inherited_readable : Inherited Json.Readable where
  noText := .string List.isChain_nil
  noRules := Json.readable_object_nil
  item h v hv := by cases h with | array h => exact h v hv
  key h e he := by
    cases h with
    | object _ hkeys _ => exact .string (hkeys e.1 (List.mem_map_of_mem he))
  value h e he := by cases h with | object _ _ h => exact h e he
  normal h hnormal := h.normalRules hnormal

theorem Text.joined_ofString (s : String) : (Text.ofString s).Joined := by
  refine List.Pairwise.isChain ?_
  rw [Text.ofString, Text.ofChars, List.pairwise_map]
  exact List.pairwise_of_forall fun a b hpair => hpair

/-- An object with the given keys, in order. -/
theorem Json.readable_object (names : List String) {entries : Record Json}
    (hkeys : entries.keys = names.map Text.ofString) (hdistinct : (names.map Text.ofString).Nodup)
    (h : ∀ e ∈ entries, Readable e.2) : Readable (.object entries) := by
  refine .object (hkeys ▸ hdistinct) ?_ h
  rw [hkeys]
  intro key hkey
  obtain ⟨name, -, rfl⟩ := List.mem_map.mp hkey
  exact Text.joined_ofString name

theorem Field.readable_toJson {f : Field} (h : f.Holds Json.Readable) : Json.Readable f.toJson := by
  refine Json.readable_object ["name", "rules"] rfl (by decide) ?_
  simp only [List.mem_cons, List.not_mem_nil, or_false, forall_eq_or_imp, forall_eq]
  exact ⟨h.name, h.rules⟩

theorem Model.readable_toJson {m : Model} (h : m.Holds Json.Readable) : Json.Readable m.toJson := by
  have hfields : Json.Readable (.array (m.fields.map Field.toJson)) := by
    refine .array fun v hv => ?_
    obtain ⟨f, hf, rfl⟩ := List.mem_map.mp hv
    exact Field.readable_toJson (h.fields f hf)
  obtain ⟨name, owner, readAll, readOne, create, update, delete, fields⟩ := m
  cases readOne with
  | none =>
      refine Json.readable_object ["name", "ownerField", "readAllAuthRequired",
        "createAuthRequired", "updateAuthRequired", "deleteAuthRequired", "fields"] rfl
        (by decide) ?_
      simp only [List.append_nil, List.cons_append, List.nil_append, List.mem_cons,
        List.not_mem_nil, or_false, forall_eq_or_imp, forall_eq]
      exact ⟨h.name, h.owner, .bool _, .bool _, .bool _, .bool _, hfields⟩
  | some required =>
      refine Json.readable_object ["name", "ownerField", "readAllAuthRequired",
        "readOneAuthRequired", "createAuthRequired", "updateAuthRequired", "deleteAuthRequired",
        "fields"] rfl (by decide) ?_
      simp only [List.cons_append, List.nil_append, List.mem_cons,
        List.not_mem_nil, or_false, forall_eq_or_imp, forall_eq]
      exact ⟨h.name, h.owner, .bool _, .bool _, .bool _, .bool _, .bool _, hfields⟩

theorem Schema.readable_toJson {s : Schema} (h : ∀ m ∈ s, m.Holds Json.Readable) :
    Json.Readable s.toJson := by
  refine .array fun v hv => ?_
  obtain ⟨m, hm, rfl⟩ := List.mem_map.mp hv
  exact Model.readable_toJson (h m hm)

/-! ## Saving and loading -/

/-- The layout for an indentation, which may be none at all. -/
def Json.Layout.ofIndent : Option Int → Layout
  | none => .line
  | some n => .spaces n

theorem Json.Layout.blank_ofIndent (indent : Option Int) : (ofIndent indent).Blank := by
  cases indent with
  | none => trivial
  | some n =>
      intro c hc
      rw [List.eq_of_mem_replicate hc]
      rfl

theorem Schema.load_eq_ok_iff {t : Text} {s : Schema} :
    Schema.load t = .ok s ↔ ∃ v, Json.read t = .ok v ∧ Schema.ofJson v = .ok s := by
  unfold Schema.load
  constructor
  · intro h
    split at h
    · cases h
    · next v hv =>
        split at h
        · cases h
        · next s' hs =>
            cases h
            exact ⟨v, hv, hs⟩
  · rintro ⟨v, hv, hs⟩
    simp only [hv, hs]

theorem Schema.holds_of_load {t : Text} {s : Schema} (h : Schema.load t = .ok s) :
    ∀ m ∈ s, m.Holds Json.Readable := by
  obtain ⟨v, hread, hdecode⟩ := Schema.load_eq_ok_iff.mp h
  exact inherited_readable.holds_of_ofJson (Json.readable_of_read hread) hdecode

end SecurityRules
