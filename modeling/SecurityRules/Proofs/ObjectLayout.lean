import Mathlib.Logic.Relation
import SecurityRules.Proofs.Reordering

/-!
# How an object is laid out

What a list of model objects says does not depend on how the objects are
written down. The order of their keys does not count, keys that mean nothing are
passed over, and a snake-case key is not looked at next to its camel-case one.
`LaidOut` lists these changes one by one, and `SameLayout` allows any number of
them, in both directions and in any of the objects. The outcome stays the same to
the last issue, whether a schema comes out or not.

Writing a key in the other case is a change that shows, but only where an issue
names the key: `Issue.respelled` says how.
-/

namespace SecurityRules

/-- The attributes of a model object, each by its camel-case key and its snake-case
one. -/
def modelKeys : List (Text × Text) :=
  [("name", "name"), ("ownerField", "owner_field"),
   ("readAllAuthRequired", "read_all_auth_required"),
   ("readOneAuthRequired", "read_one_auth_required"),
   ("createAuthRequired", "create_auth_required"),
   ("updateAuthRequired", "update_auth_required"),
   ("deleteAuthRequired", "delete_auth_required"), ("fields", "fields")]

/-- The attributes of a field object. -/
def fieldKeys : List (Text × Text) :=
  [("name", "name"), ("rules", "rules")]

/-- A change to the layout of an object with these attributes. -/
inductive Relaid (keys : List (Text × Text)) : Record Json → Record Json → Prop
  | reordered {entries entries' : Record Json} (hdistinct : entries.keys.Nodup)
      (h : entries.Perm entries') : Relaid keys entries entries'
  /-- A key that belongs to no attribute is added. -/
  | unknown (before after : Record Json) {key : Text} (value : Json)
      (hkey : ∀ a ∈ keys, key ≠ a.1 ∧ key ≠ a.2) :
      Relaid keys (before ++ after) (before ++ (key, value) :: after)
  /-- A snake-case key is added where the camel-case one is there. -/
  | shadowed (before after : Record Json) {camel snake : Text} (value : Json)
      (hkey : (camel, snake) ∈ keys) (hne : snake ≠ camel)
      (h : Record.has camel (before ++ after)) :
      Relaid keys (before ++ after) (before ++ (snake, value) :: after)

/-- A model object with its field objects between other entries. -/
def withFields (before : Record Json) (fields : List Json) (after : Record Json) : Json :=
  .object (before ++ (Text.ofString "fields", .array fields) :: after)

/-- A change to the layout of one model object, or of one field object in it. -/
inductive LaidOut : List Json → List Json → Prop
  | model (earlier later : List Json) {entries entries' : Record Json}
      (h : Relaid modelKeys entries entries') :
      LaidOut (earlier ++ .object entries :: later) (earlier ++ .object entries' :: later)
  | field (earlier later : List Json) (before after : Record Json) (above below : List Json)
      {entries entries' : Record Json} (h : Relaid fieldKeys entries entries') :
      LaidOut (earlier ++ withFields before (above ++ .object entries :: below) after :: later)
        (earlier ++ withFields before (above ++ .object entries' :: below) after :: later)

/-- Lists that can be changed into each other. -/
def SameLayout : List Json → List Json → Prop :=
  Relation.EqvGen LaidOut

/-! ## Looking up keys -/

theorem Record.get?_append {α : Type} (key : Text) (q r : Record α) :
    Record.get? key (q ++ r) = (q.get? key).or (r.get? key) := by
  induction q with
  | nil => rfl
  | cons e q ih =>
      obtain ⟨k, value⟩ := e
      rw [List.cons_append, Record.get?, Record.get?, ih]
      split <;> rfl

/-- Another key in between makes no difference. -/
theorem Record.get?_between {α : Type} {key other : Text} (h : other ≠ key)
    (before after : Record α) (value : α) :
    Record.get? key (before ++ (other, value) :: after) = Record.get? key (before ++ after) := by
  rw [Record.get?_append, Record.get?_append, Record.get?, if_neg h]

/-- No two attributes have a key in common. -/
def Unshared (keys : List (Text × Text)) : Prop :=
  ∀ a ∈ keys, ∀ b ∈ keys, a ≠ b → a.1 ≠ b.1 ∧ a.1 ≠ b.2 ∧ a.2 ≠ b.1 ∧ a.2 ≠ b.2

instance (keys : List (Text × Text)) : Decidable (Unshared keys) :=
  inferInstanceAs (Decidable (∀ a ∈ keys, ∀ b ∈ keys, a ≠ b → _))

theorem unshared_modelKeys : Unshared modelKeys := by decide +kernel

theorem unshared_fieldKeys : Unshared fieldKeys := by decide +kernel

/-- Where the camel-case key is there, the snake-case one is not looked at. -/
theorem setting?_of_camel {camel snake : Text} {entries : Record Json} {value : Json}
    (h : entries.get? camel = some value) : setting? camel snake entries = some (camel, value) := by
  rw [setting?, h]

theorem setting?_congr {camel snake : Text} {entries entries' : Record Json}
    (hcamel : entries'.get? camel = entries.get? camel)
    (hsnake : entries'.get? snake = entries.get? snake) :
    setting? camel snake entries' = setting? camel snake entries := by
  rw [setting?, setting?, hcamel, hsnake]

/-- No change of the layout is seen through the attributes. -/
theorem Relaid.setting?_eq {keys : List (Text × Text)} (hkeys : Unshared keys)
    {entries entries' : Record Json} (h : Relaid keys entries entries') {camel snake : Text}
    (hmem : (camel, snake) ∈ keys) :
    setting? camel snake entries' = setting? camel snake entries := by
  cases h with
  | reordered hdistinct h =>
      exact setting?_congr (Record.get?_perm hdistinct h.symm camel)
        (Record.get?_perm hdistinct h.symm snake)
  | unknown before after value hkey =>
      obtain ⟨hcamel, hsnake⟩ := hkey _ hmem
      exact setting?_congr (Record.get?_between hcamel _ _ _) (Record.get?_between hsnake _ _ _)
  | @shadowed before after camel₀ snake₀ value hkey hne h =>
      by_cases hsame : (camel₀, snake₀) = (camel, snake)
      · cases hsame
        obtain ⟨found, hfound⟩ := Option.isSome_iff_exists.mp h
        rw [setting?_of_camel hfound,
          setting?_of_camel ((Record.get?_between hne _ _ _).trans hfound)]
      · obtain ⟨-, -, hcamel, hsnake⟩ := hkeys _ hkey _ hmem hsame
        exact setting?_congr (Record.get?_between hcamel _ _ _) (Record.get?_between hsnake _ _ _)

theorem setting_congr {α : Type} {camel snake : Text} {entries entries' : Record Json}
    (h : setting? camel snake entries' = setting? camel snake entries) (default : α)
    (decode : Json → Validated α) :
    setting camel snake default decode entries' = setting camel snake default decode entries := by
  rw [setting, setting, h]

/-! ## Objects -/

theorem Field.decode_relaid {entries entries' : Record Json}
    (h : Relaid fieldKeys entries entries') :
    Field.decode (.object entries') = Field.decode (.object entries) := by
  have hsetting : ∀ a ∈ fieldKeys, setting? a.1 a.2 entries' = setting? a.1 a.2 entries :=
    fun _ ha => h.setting?_eq unshared_fieldKeys ha
  simp only [fieldKeys, List.forall_mem_cons] at hsetting
  obtain ⟨hname, hrules, -⟩ := hsetting
  simp only [Field.decode, setting_congr hname, setting_congr hrules]

/-- A model object is decoded through its attributes. -/
theorem Model.decode_congr {entries entries' : Record Json}
    (h : ∀ a ∈ modelKeys, a.1 ≠ Text.ofString "fields" →
      setting? a.1 a.2 entries' = setting? a.1 a.2 entries)
    (hfields : setting "fields" "fields" [] (decodeList Field.decode) entries'
      = setting "fields" "fields" [] (decodeList Field.decode) entries) :
    Model.decode (.object entries') = Model.decode (.object entries) := by
  simp only [modelKeys, List.forall_mem_cons] at h
  obtain ⟨hname, howner, hreadAll, hreadOne, hcreate, hupdate, hdelete, -⟩ := h
  simp only [Model.decode, setting_congr (hname (by decide)), setting_congr (howner (by decide)),
    setting_congr (hreadAll (by decide)), setting_congr (hreadOne (by decide)),
    setting_congr (hcreate (by decide)), setting_congr (hupdate (by decide)),
    setting_congr (hdelete (by decide)), hfields]

theorem Model.decode_relaid {entries entries' : Record Json}
    (h : Relaid modelKeys entries entries') :
    Model.decode (.object entries') = Model.decode (.object entries) :=
  Model.decode_congr (fun _ ha _ => h.setting?_eq unshared_modelKeys ha)
    (setting_congr (h.setting?_eq unshared_modelKeys (by decide +kernel)) _ _)

theorem decodeItems_congr {α : Type} {decode : Json → Validated α} {v v' : Json}
    (h : decode v' = decode v) (above below : List Json) (i : Nat) :
    decodeItems decode i (above ++ v' :: below) = decodeItems decode i (above ++ v :: below) := by
  induction above generalizing i with
  | nil => simp only [List.nil_append, decodeItems, h]
  | cons item above ih => simp only [List.cons_append, decodeItems, ih]

theorem Model.decode_withFields {fields fields' : List Json}
    (h : decodeItems Field.decode 0 fields' = decodeItems Field.decode 0 fields)
    (before after : Record Json) :
    Model.decode (withFields before fields' after)
      = Model.decode (withFields before fields after) := by
  refine Model.decode_congr (fun a ha hother => ?_) ?_
  · -- the key of the fields belongs to no other attribute
    have hself : (Text.ofString "fields", Text.ofString "fields") ∈ modelKeys := by decide +kernel
    have hne : (Text.ofString "fields", Text.ofString "fields") ≠ a := by
      rintro rfl
      exact hother rfl
    obtain ⟨hcamel, hsnake, -, -⟩ := unshared_modelKeys _ hself _ ha hne
    refine setting?_congr ?_ ?_
    · rw [Record.get?_between hcamel, Record.get?_between hcamel]
    · rw [Record.get?_between hsnake, Record.get?_between hsnake]
  · unfold setting setting?
    rw [Record.get?_append, Record.get?_append, Record.get?, Record.get?, if_pos rfl, if_pos rfl]
    cases Record.get? (Text.ofString "fields") before with
    | some value => rfl
    | none => simp only [Option.none_or, decodeList, h]

/-! ## Lists -/

theorem ofPersisted_append (items items' : List Json) :
    ofPersisted (items ++ items') = match ofPersisted items with
      | .error fault => .error fault
      | .ok s => (ofPersisted items').map (s ++ ·) := by
  induction items with
  | nil =>
      have hnone : ofPersisted [] = .ok [] := rfl
      rw [List.nil_append, hnone]
      cases ofPersisted items' <;> rfl
  | cons v items ih =>
      rw [List.cons_append, ofPersisted, ofPersisted]
      cases Model.ofJson v with
      | error rejection => rfl
      | ok m =>
          simp only [ih]
          cases ofPersisted items with
          | error fault => rfl
          | ok s => cases ofPersisted items' <;> rfl

theorem ofPersisted_congr {v v' : Json} (h : Model.decode v' = Model.decode v)
    (earlier later : List Json) :
    ofPersisted (earlier ++ v' :: later) = ofPersisted (earlier ++ v :: later) := by
  simp only [ofPersisted_append, ofPersisted, Model.ofJson, h]

theorem LaidOut.ofPersisted_eq {items items' : List Json} (h : LaidOut items items') :
    ofPersisted items' = ofPersisted items := by
  cases h with
  | model earlier later h => exact ofPersisted_congr (Model.decode_relaid h) earlier later
  | field earlier later before after above below h =>
      exact ofPersisted_congr (Model.decode_withFields
        (decodeItems_congr (Field.decode_relaid h) above below 0) before after) earlier later

theorem SameLayout.ofPersisted_eq {items items' : List Json} (h : SameLayout items items') :
    ofPersisted items' = ofPersisted items := by
  induction h with
  | rel items items' h => exact h.ofPersisted_eq
  | refl items => rfl
  | symm items items' _ ih => exact ih.symm
  | trans items between items' _ _ first second => exact second.trans first

/-! ## Keys in the other case -/

/-- A model object with the camel-case key of an attribute, and the same object
with the snake-case key in its place. -/
inductive Respelled (camel snake : Text) : Record Json → Record Json → Prop
  | key (before after : Record Json) (value : Json) (hkey : (camel, snake) ∈ modelKeys)
      (hcamel : Record.get? camel (before ++ after) = none)
      (hsnake : Record.get? snake (before ++ after) = none) :
      Respelled camel snake (before ++ (camel, value) :: after) (before ++ (snake, value) :: after)

/-- An issue with another key in the first step of its path. -/
def Issue.respelled (camel snake : Text) (issue : Issue) : Issue :=
  match issue.path with
  | .key k :: path => { issue with path := .key (if k = camel then snake else k) :: path }
  | _ => issue

namespace Validated

variable {α β : Type}

/-- A check with every issue changed. -/
def mapIssues (f : Issue → Issue) : Validated α → Validated α
  | valid a => valid a
  | invalid issues => invalid (issues.map f)

theorem mapIssues_map (f : Issue → Issue) (g : α → β) (x : Validated α) :
    mapIssues f (g <$> x) = g <$> mapIssues f x := by
  cases x <;> rfl

theorem mapIssues_seq (f : Issue → Issue) (g : Validated (α → β)) (x : Validated α) :
    mapIssues f (g <*> x) = mapIssues f g <*> mapIssues f x := by
  cases g with
  | valid g => cases x <;> rfl
  | invalid issues =>
      cases x with
      | valid a => rfl
      | invalid more => exact congrArg invalid List.map_append

theorem mapIssues_under (camel snake k : Text) (x : Validated α) :
    mapIssues (Issue.respelled camel snake) (x.under (.key k))
      = x.under (.key (if k = camel then snake else k)) := by
  cases x with
  | valid a => rfl
  | invalid issues =>
      simp only [under, mapIssues, List.map_map]
      rfl

end Validated

theorem mem_of_setting? {camel snake key : Text} {entries : Record Json} {value : Json}
    (h : setting? camel snake entries = some (key, value)) : key = camel ∨ key = snake := by
  unfold setting? at h
  split at h
  · cases h
    exact Or.inl rfl
  · obtain ⟨_, -, heq⟩ := Option.map_eq_some_iff.mp h
    cases heq
    exact Or.inr rfl

/-- A key that stands nowhere else is found where it stands. -/
theorem Record.get?_middle {α : Type} {key : Text} {before after : Record α}
    (h : Record.get? key (before ++ after) = none) (value : α) :
    Record.get? key (before ++ (key, value) :: after) = some value := by
  rw [Record.get?_append, Option.or_eq_none_iff] at h
  rw [Record.get?_append, h.1, Record.get?, if_pos rfl, Option.none_or]

namespace Respelled

variable {camel snake : Text} {entries entries' : Record Json}

/-- The attribute itself is found under the other key. -/
theorem setting?_self (h : Respelled camel snake entries entries') :
    ∃ value, setting? camel snake entries = some (camel, value)
      ∧ setting? camel snake entries' = some (snake, value) := by
  cases h with
  | key before after value hkey hcamel hsnake =>
      refine ⟨value, setting?_of_camel (Record.get?_middle hcamel value), ?_⟩
      by_cases hsame : snake = camel
      · subst hsame
        exact setting?_of_camel (Record.get?_middle hcamel value)
      · rw [setting?, Record.get?_between hsame, hcamel, Record.get?_middle hsnake]
        rfl

theorem setting?_other (h : Respelled camel snake entries entries') {a : Text × Text}
    (ha : a ∈ modelKeys) (hne : a ≠ (camel, snake)) :
    setting? a.1 a.2 entries' = setting? a.1 a.2 entries := by
  cases h with
  | key before after value hkey hcamel hsnake =>
      obtain ⟨h₁, h₂, h₃, h₄⟩ := unshared_modelKeys _ ha _ hkey hne
      refine setting?_congr ?_ ?_
      · rw [Record.get?_between h₂.symm, Record.get?_between h₁.symm]
      · rw [Record.get?_between h₄.symm, Record.get?_between h₃.symm]

theorem mem (h : Respelled camel snake entries entries') : (camel, snake) ∈ modelKeys := by
  cases h with
  | key before after value hkey hcamel hsnake => exact hkey

/-- The issues of an attribute name the key that it is found under. -/
theorem setting_eq {α : Type} (h : Respelled camel snake entries entries') {a : Text × Text}
    (ha : a ∈ modelKeys) (default : α) (decode : Json → Validated α) :
    setting a.1 a.2 default decode entries'
      = (setting a.1 a.2 default decode entries).mapIssues (Issue.respelled camel snake) := by
  by_cases hself : a = (camel, snake)
  · subst hself
    obtain ⟨value, hbefore, hafter⟩ := h.setting?_self
    rw [setting, setting, hbefore, hafter]
    simp only [Validated.mapIssues_under, if_true]
  · rw [setting_congr (h.setting?_other ha hself), setting]
    cases hfound : setting? a.1 a.2 entries with
    | none => rfl
    | some found =>
        obtain ⟨key, value⟩ := found
        have hkey : key ≠ camel := by
          obtain ⟨hcamel, -, hsnake, -⟩ := unshared_modelKeys _ ha _ h.mem hself
          rcases mem_of_setting? hfound with rfl | rfl
          · exact hcamel
          · exact hsnake
        simp only [Validated.mapIssues_under, if_neg hkey]

theorem decode_eq (h : Respelled camel snake entries entries') :
    Model.decode (.object entries')
      = (Model.decode (.object entries)).mapIssues (Issue.respelled camel snake) := by
  have hsetting : ∀ a ∈ modelKeys, ∀ {α : Type} (default : α) (decode : Json → Validated α),
      setting a.1 a.2 default decode entries'
        = (setting a.1 a.2 default decode entries).mapIssues (Issue.respelled camel snake) :=
    fun _ ha _ => h.setting_eq ha
  simp only [modelKeys, List.forall_mem_cons] at hsetting
  obtain ⟨hname, howner, hreadAll, hreadOne, hcreate, hupdate, hdelete, hfields, -⟩ := hsetting
  simp only [Model.decode, hname, howner, hreadAll, hreadOne, hcreate, hupdate, hdelete, hfields,
    Validated.mapIssues_map, Validated.mapIssues_seq]

/-- A list with a key in the other case has the same outcome, or the same issues
but for that key. -/
theorem ofPersisted_eq (h : Respelled camel snake entries entries') (earlier later : List Json) :
    ofPersisted (earlier ++ .object entries' :: later)
        = ofPersisted (earlier ++ .object entries :: later)
      ∨ ∃ issues, ofPersisted (earlier ++ .object entries :: later)
            = .error (.rejected ⟨.model, issues⟩)
          ∧ ofPersisted (earlier ++ .object entries' :: later)
            = .error (.rejected ⟨.model, issues.map (Issue.respelled camel snake)⟩) := by
  cases hdecode : Model.decode (.object entries) with
  | valid m =>
      refine Or.inl (ofPersisted_congr ?_ earlier later)
      rw [h.decode_eq, hdecode]
      rfl
  | invalid issues =>
      have hdecode' := h.decode_eq
      rw [hdecode] at hdecode'
      rw [ofPersisted_append, ofPersisted_append]
      cases ofPersisted earlier with
      | error fault => exact Or.inl rfl
      | ok s =>
          refine Or.inr ⟨issues, ?_, ?_⟩
          · rw [ofPersisted, Model.ofJson, hdecode]
            rfl
          · rw [ofPersisted, Model.ofJson, hdecode']
            rfl

end Respelled

/-- The outcome of a list of model objects does not depend on their layout. A key in
the other case shows in the issues that name it, and nowhere else. -/
theorem Schema.ofJson_layout :
    (∀ items items', SameLayout items items' →
        Schema.ofJson (.array items') = Schema.ofJson (.array items))
      ∧ ∀ camel snake entries entries', Respelled camel snake entries entries' →
          ∀ earlier later,
            Schema.ofJson (.array (earlier ++ .object entries' :: later))
                = Schema.ofJson (.array (earlier ++ .object entries :: later))
              ∨ ∃ issues, Schema.ofJson (.array (earlier ++ .object entries :: later))
                    = .error (.rejected ⟨.model, issues⟩)
                  ∧ Schema.ofJson (.array (earlier ++ .object entries' :: later))
                    = .error (.rejected ⟨.model, issues.map (Issue.respelled camel snake)⟩) :=
  ⟨fun _ _ h => h.ofPersisted_eq, fun _ _ _ _ h => h.ofPersisted_eq⟩

/-- A flag that cannot be read is reported although the other key has one that can,
wherever it stands, and is reported under the other key if only that is there. -/
theorem Schema.ofJson_layout_unclearFlag :
    let name : Text × Json := ("name", .string "a")
    let flag (key : Text) : Text × Json := (key, .string "?")
    let shadowed : Text × Json := ("create_auth_required", .bool true)
    let refused (key : Text) : Except EncodingFault Schema :=
      .error (.rejected ⟨.model, [⟨[.key key], .unclearFlag⟩]⟩)
    SameLayout [.object [name, flag "createAuthRequired"]]
        [.object [shadowed, flag "createAuthRequired", name]]
      ∧ Schema.ofJson (.array [.object [shadowed, flag "createAuthRequired", name]])
        = refused "createAuthRequired"
      ∧ Respelled "createAuthRequired" "create_auth_required" [name, flag "createAuthRequired"]
        [name, flag "create_auth_required"]
      ∧ Schema.ofJson (.array [.object [name, flag "create_auth_required"]])
        = refused "create_auth_required" := by
  intro name flag shadowed refused
  have hmoved : LaidOut [.object [name, flag "createAuthRequired"]]
      [.object [flag "createAuthRequired", name]] :=
    .model [] [] (.reordered (by decide +kernel) (.swap (flag "createAuthRequired") name []))
  have hkey : (Text.ofString "createAuthRequired", Text.ofString "create_auth_required")
      ∈ modelKeys := by decide +kernel
  have hadded : LaidOut [.object [flag "createAuthRequired", name]]
      [.object [shadowed, flag "createAuthRequired", name]] :=
    .model [] [] (.shadowed [] [flag "createAuthRequired", name] (.bool true) hkey
      (by decide +kernel) rfl)
  have hlayout : SameLayout [.object [name, flag "createAuthRequired"]]
      [.object [shadowed, flag "createAuthRequired", name]] :=
    .trans _ _ _ (.rel _ _ hmoved) (.rel _ _ hadded)
  have hrespelled : Respelled "createAuthRequired" "create_auth_required"
      [name, flag "createAuthRequired"] [name, flag "create_auth_required"] :=
    .key [name] [] (.string "?") hkey rfl rfl
  have hrefused : Schema.ofJson (.array [.object [name, flag "createAuthRequired"]])
      = refused "createAuthRequired" := rfl
  refine ⟨hlayout, (Schema.ofJson_layout.1 _ _ hlayout).trans hrefused, hrespelled, ?_⟩
  obtain hsame | ⟨issues, hbefore, hafter⟩ := Schema.ofJson_layout.2 _ _ _ _ hrespelled [] []
  · rfl
  · cases hrefused.symm.trans hbefore
    exact hafter

end SecurityRules
