import SecurityRules.Proofs.AcceptedRules

/-!
# Documents that are written back as they were

Many documents say the same schema: keys may be spelled in two ways, left out, given in
any order or mixed with others, flags may be words or numbers, and lengths may be texts.
Only one of them is written. `Json.Canonical` says what such a document looks like, by its
keys and by what stands under each, and `Schema.toJson_eq_iff_canonical` that a document
is written back unchanged exactly if it is one.

Both directions rest on one equivalence: the canonical documents are the encodings of the
schemas whose rules are settled. Decoding takes an encoding back to its schema, so there
is nothing left to be compared key by key.
-/

namespace SecurityRules

namespace Json

/-! ## Canonical documents -/

def IsText (v : Json) : Prop :=
  ∃ s, v = .string s

def IsFlag (v : Json) : Prop :=
  ∃ b, v = .bool b

/-- A list with something asked of its items. -/
def ListOf (P : Json → Prop) (v : Json) : Prop :=
  ∃ items, v = .array items ∧ ∀ item ∈ items, P item

/-- The keys of an object in order, and what is asked of the value under each. -/
abbrev Plan := List (Text × (Json → Prop))

/-- Entries have exactly the keys of a plan, in order, with values as it asks. -/
def Follows (plan : Plan) (entries : Record Json) : Prop :=
  List.Forall₂ (fun place e => e.1 = place.1 ∧ place.2 e.2) plan entries

/-- Rules as they are stored. -/
def SettledRules (v : Json) : Prop :=
  ∃ rules, v = .object rules ∧ ∀ e ∈ rules, Settled e.1 e.2

def fieldPlan : Plan :=
  [("name", IsText), ("rules", SettledRules)]

def CanonicalField (v : Json) : Prop :=
  ∃ entries, v = .object entries ∧ Follows fieldPlan entries

/-- The plan of a model up to where reading single documents may have a key of its own. -/
def namingPlan : Plan :=
  [("name", IsText), ("ownerField", IsText), ("readAllAuthRequired", IsFlag)]

/-- The plan of a model behind that place. -/
def writingPlan : Plan :=
  [("createAuthRequired", IsFlag), ("updateAuthRequired", IsFlag), ("deleteAuthRequired", IsFlag),
   ("fields", ListOf CanonicalField)]

/-- The plan of a model, with a key for reading single documents or without it. -/
def modelPlan (split : Bool) : Plan :=
  let reading : Plan := if split then [("readOneAuthRequired", IsFlag)] else []
  namingPlan ++ reading ++ writingPlan

def CanonicalModel (v : Json) : Prop :=
  ∃ split entries, v = .object entries ∧ Follows (modelPlan split) entries

/-- A document as it is written. -/
def Canonical (v : Json) : Prop :=
  ListOf CanonicalModel v

/-! ## Canonical documents are encodings -/

theorem follows_cons_iff {key : Text} {P : Json → Prop} {plan : Plan} {entries : Record Json} :
    Follows ((key, P) :: plan) entries
      ↔ ∃ v rest, P v ∧ Follows plan rest ∧ entries = (key, v) :: rest := by
  rw [Follows, List.forall₂_cons_left_iff]
  constructor
  · rintro ⟨⟨_, v⟩, rest, ⟨rfl, hv⟩, hrest, rfl⟩
    exact ⟨v, rest, hv, hrest, rfl⟩
  · rintro ⟨v, rest, hv, hrest, rfl⟩
    exact ⟨(key, v), rest, ⟨rfl, hv⟩, hrest, rfl⟩

theorem follows_nil_iff {entries : Record Json} : Follows [] entries ↔ entries = [] :=
  List.forall₂_nil_left_iff

theorem follows_append_iff {plan more : Plan} {entries : Record Json} :
    Follows (plan ++ more) entries
      ↔ ∃ first rest, Follows plan first ∧ Follows more rest ∧ entries = first ++ rest := by
  induction plan generalizing entries with
  | nil => simp [follows_nil_iff]
  | cons place plan ih =>
      obtain ⟨key, P⟩ := place
      simp only [List.cons_append, follows_cons_iff, ih]
      constructor
      · rintro ⟨v, _, hv, ⟨first, rest, hfirst, hrest, rfl⟩, rfl⟩
        exact ⟨(key, v) :: first, rest, ⟨v, first, hv, hfirst, rfl⟩, hrest, rfl⟩
      · rintro ⟨_, rest, ⟨v, first, hv, hfirst, rfl⟩, hrest, rfl⟩
        exact ⟨v, first ++ rest, hv, ⟨first, rest, hfirst, hrest, rfl⟩, rfl⟩

/-- If items are encodings, a list of them is the encoding of a list. -/
theorem listOf_iff {α : Type} {P : Json → Prop} {Q : α → Prop} {encode : α → Json}
    (h : ∀ v, P v ↔ ∃ a, Q a ∧ v = encode a) {v : Json} :
    ListOf P v ↔ ∃ as : List α, (∀ a ∈ as, Q a) ∧ v = .array (as.map encode) := by
  constructor
  · rintro ⟨items, rfl, hitems⟩
    induction items with
    | nil => exact ⟨[], by simp, rfl⟩
    | cons item items ih =>
        obtain ⟨a, ha, rfl⟩ := (h item).mp (hitems item (by simp))
        obtain ⟨as, has, heq⟩ := ih fun other hother => hitems other (by simp [hother])
        refine ⟨a :: as, by simpa [ha] using has, ?_⟩
        rw [List.map_cons, ← Json.array.inj heq]
  · rintro ⟨as, has, rfl⟩
    refine ⟨_, rfl, fun item hitem => ?_⟩
    obtain ⟨a, ha, rfl⟩ := List.mem_map.mp hitem
    exact (h _).mpr ⟨a, has a ha, rfl⟩

theorem settledRules_iff {v : Json} :
    SettledRules v ↔ ∃ rules, NormalRules rules ∧ v = .object rules := by
  simp only [SettledRules, settled_iff_normalAt, NormalRules, and_comm]

theorem canonicalField_iff (v : Json) :
    CanonicalField v ↔ ∃ f : Field, NormalRules f.rules ∧ v = f.toJson := by
  simp only [CanonicalField, fieldPlan, follows_cons_iff, follows_nil_iff, settledRules_iff]
  constructor
  · rintro ⟨_, rfl, _, _, ⟨name, rfl⟩, ⟨_, _, ⟨rules, hrules, rfl⟩, rfl, rfl⟩, rfl⟩
    exact ⟨⟨name, rules⟩, hrules, rfl⟩
  · rintro ⟨f, hrules, rfl⟩
    exact ⟨_, rfl, _, _, ⟨f.name, rfl⟩, ⟨_, _, ⟨f.rules, hrules, rfl⟩, rfl, rfl⟩, rfl⟩

theorem follows_namingPlan_iff {entries : Record Json} :
    Follows namingPlan entries
      ↔ ∃ name owner readAll, entries = ([("name", .string name), ("ownerField", .string owner),
          ("readAllAuthRequired", .bool readAll)] : Record Json) := by
  simp only [namingPlan, follows_cons_iff, follows_nil_iff]
  constructor
  · rintro ⟨_, _, ⟨name, rfl⟩, ⟨_, _, ⟨owner, rfl⟩, ⟨_, _, ⟨readAll, rfl⟩, rfl, rfl⟩, rfl⟩, rfl⟩
    exact ⟨name, owner, readAll, rfl⟩
  · rintro ⟨name, owner, readAll, rfl⟩
    exact ⟨_, _, ⟨name, rfl⟩, ⟨_, _, ⟨owner, rfl⟩, ⟨_, _, ⟨readAll, rfl⟩, rfl, rfl⟩, rfl⟩, rfl⟩

theorem follows_writingPlan_iff {entries : Record Json} :
    Follows writingPlan entries
      ↔ ∃ (create update delete : Bool) (fields : List Field),
          (∀ f ∈ fields, NormalRules f.rules)
          ∧ entries = ([("createAuthRequired", .bool create), ("updateAuthRequired", .bool update),
              ("deleteAuthRequired", .bool delete),
              ("fields", .array (fields.map Field.toJson))] : Record Json) := by
  simp only [writingPlan, follows_cons_iff, follows_nil_iff, listOf_iff canonicalField_iff]
  constructor
  · rintro ⟨_, _, ⟨create, rfl⟩, ⟨_, _, ⟨update, rfl⟩, ⟨_, _, ⟨delete, rfl⟩,
      ⟨_, _, ⟨fields, hfields, rfl⟩, rfl, rfl⟩, rfl⟩, rfl⟩, rfl⟩
    exact ⟨create, update, delete, fields, hfields, rfl⟩
  · rintro ⟨create, update, delete, fields, hfields, rfl⟩
    exact ⟨_, _, ⟨create, rfl⟩, ⟨_, _, ⟨update, rfl⟩, ⟨_, _, ⟨delete, rfl⟩,
      ⟨_, _, ⟨fields, hfields, rfl⟩, rfl, rfl⟩, rfl⟩, rfl⟩, rfl⟩

theorem canonicalModel_iff (v : Json) :
    CanonicalModel v
      ↔ ∃ m : Model, (∀ f ∈ m.fields, NormalRules f.rules) ∧ v = m.toJson := by
  simp only [CanonicalModel, modelPlan, follows_append_iff]
  constructor
  · rintro ⟨split, _, rfl, _, _, ⟨_, reading, hnaming, hreading, rfl⟩, hwriting, rfl⟩
    obtain ⟨name, owner, readAll, rfl⟩ := follows_namingPlan_iff.mp hnaming
    obtain ⟨create, update, delete, fields, hfields, rfl⟩ := follows_writingPlan_iff.mp hwriting
    cases split with
    | false =>
        obtain rfl := follows_nil_iff.mp hreading
        exact ⟨⟨name, owner, readAll, none, create, update, delete, fields⟩, hfields, rfl⟩
    | true =>
        obtain ⟨_, _, ⟨readOne, rfl⟩, hend, rfl⟩ := follows_cons_iff.mp hreading
        obtain rfl := follows_nil_iff.mp hend
        exact ⟨⟨name, owner, readAll, some readOne, create, update, delete, fields⟩, hfields, rfl⟩
  · rintro ⟨⟨name, owner, readAll, readOne, create, update, delete, fields⟩, hfields, rfl⟩
    have hnaming := follows_namingPlan_iff.mpr ⟨name, owner, readAll, rfl⟩
    have hwriting := follows_writingPlan_iff.mpr ⟨create, update, delete, fields, hfields, rfl⟩
    cases readOne with
    | none =>
        exact ⟨false, _, rfl, _, _, ⟨_, [], hnaming, .nil, rfl⟩, hwriting, rfl⟩
    | some required =>
        have hreading : Follows [("readOneAuthRequired", IsFlag)]
            [("readOneAuthRequired", .bool required)] := .cons ⟨rfl, required, rfl⟩ .nil
        exact ⟨true, _, rfl, _, _, ⟨_, _, hnaming, hreading, rfl⟩, hwriting, rfl⟩

/-- The canonical documents are the encodings of schemas with rules in normal form. -/
theorem canonical_iff {v : Json} :
    v.Canonical
      ↔ ∃ s : Schema, (∀ m ∈ s, ∀ f ∈ m.fields, NormalRules f.rules) ∧ v = s.toJson :=
  listOf_iff canonicalModel_iff

end Json

/-! ## Reading and writing back -/

/-- A document that encodes a schema is written back as it was exactly if it is canonical,
and whatever is written is. -/
theorem Schema.toJson_eq_iff_canonical {v : Json} {s : Schema} (h : Schema.ofJson v = .ok s) :
    (s.toJson = v ↔ v.Canonical) ∧ s.toJson.Canonical := by
  have hwritten : s.toJson.Canonical := Json.canonical_iff.mpr ⟨s, Schema.normal_of_ofJson h, rfl⟩
  refine ⟨⟨fun heq => heq ▸ hwritten, fun hcanonical => ?_⟩, hwritten⟩
  obtain ⟨s', hnormal, rfl⟩ := Json.canonical_iff.mp hcanonical
  rw [Schema.ofJson_toJson hnormal] at h
  cases h
  rfl

/-- A document that is canonical but for a length that was typed in, and its schema's own
document, in which a text may be empty below the rules. -/
theorem Schema.toJson_eq_iff_canonical_typedIn :
    ∃ v s, Schema.ofJson v = .ok s ∧ ¬ v.Canonical ∧ s.toJson.Canonical
      ∧ v = .array [.object [("name", .string "a"), ("ownerField", .string []),
          ("readAllAuthRequired", .bool false), ("readOneAuthRequired", .bool true),
          ("createAuthRequired", .bool false), ("updateAuthRequired", .bool false),
          ("deleteAuthRequired", .bool false), ("fields", .array [.object [("name", .string "f"),
            ("rules", .object [("maxLength", .string "7"), ("note", .array [.string []])])]])]]
      ∧ s = [{ name := "a", readOne := some true, fields :=
          [⟨"f", [("maxLength", .int 7), ("note", .array [.string []])]⟩] }] := by
  have hdecode : Schema.ofJson (.array [.object [("name", .string "a"), ("ownerField", .string []),
      ("readAllAuthRequired", .bool false), ("readOneAuthRequired", .bool true),
      ("createAuthRequired", .bool false), ("updateAuthRequired", .bool false),
      ("deleteAuthRequired", .bool false), ("fields", .array [.object [("name", .string "f"),
        ("rules", .object [("maxLength", .string "7"), ("note", .array [.string []])])]])]])
      = .ok [{ name := "a", readOne := some true, fields :=
          [⟨"f", [("maxLength", .int 7), ("note", .array [.string []])]⟩] }] := by
    decide +kernel
  obtain ⟨hiff, hwritten⟩ := Schema.toJson_eq_iff_canonical hdecode
  exact ⟨_, _, hdecode, fun hcanonical => absurd (hiff.mpr hcanonical) (by decide), hwritten, rfl,
    rfl⟩

end SecurityRules
