import SecurityRules.Proofs.LoadedDrafts
import SecurityRules.Proofs.SchemaReload
import SecurityRules.Proofs.TypedLengths

/-!
# Which rules a field accepts

A rule is acceptable or not by its own key and value. `Acceptable` says which are,
kind by kind, and `Settles` what is stored for them. Normalising does not look at
the two one after the other: it turns texts into what they stand for first and
compares types afterwards, so that a length given as a text is refused as no
integer, and a length given as a flag as a value of another type.

What is stored is all that the compiler and the check ask for. They look at rules
without any test of their own, and `Field.rules_accepted_exactly` ends with what they
may rely on: a draft of a loaded schema has a document and a report.
-/

namespace SecurityRules

/-! ## Values under a kind -/

namespace Kind

/-- A value has the type that a kind asks for. -/
inductive Typed : Kind → Json → Prop
  | type (s : Text) : Typed .type (.string s)
  | regex (s : Text) : Typed .regex (.string s)
  | minLength (n : Int) : Typed .minLength (.int n)
  | maxLength (n : Int) : Typed .maxLength (.int n)
  | canBeEmpty (b : Bool) : Typed .canBeEmpty (.bool b)

/-- What may be given under a kind. -/
inductive Accepts (kind : Kind) : Json → Prop
  | null : Accepts kind .null
  | empty : Accepts kind (.string [])
  | typed {v : Json} (h : kind.Typed v) : Accepts kind v
  | typedIn {s : Text} {n : Int} (hkind : kind = .minLength ∨ kind = .maxLength)
      (h : s.Denotes n) : Accepts kind (.string s)

/-- Why a value is refused under a kind: a text under a length for what it spells, and
anything else for its type. -/
inductive Blames (kind : Kind) : Json → RuleFault → Prop
  | notInteger (s : Text) (hkind : kind = .minLength ∨ kind = .maxLength)
      (fault : IntegerFault) : Blames kind (.string s) (.notInteger fault)
  | mistyped {v : Json} (h : kind = .minLength ∨ kind = .maxLength → ∀ s, v ≠ .string s) :
      Blames kind v (.mistyped kind v)

variable {kind : Kind} {v : Json}

theorem admits_iff_typed : kind.admits v = true ↔ kind.Typed v := by
  constructor
  · intro h
    cases kind with
    | type =>
        cases v with
        | string s => exact .type s
        | null | bool _ | int _ | float _ | array _ | object _ => cases h
    | regex =>
        cases v with
        | string s => exact .regex s
        | null | bool _ | int _ | float _ | array _ | object _ => cases h
    | minLength =>
        cases v with
        | int n => exact .minLength n
        | null | bool _ | string _ | float _ | array _ | object _ => cases h
    | maxLength =>
        cases v with
        | int n => exact .maxLength n
        | null | bool _ | string _ | float _ | array _ | object _ => cases h
    | canBeEmpty =>
        cases v with
        | bool b => exact .canBeEmpty b
        | null | int _ | string _ | float _ | array _ | object _ => cases h
  · intro h
    cases h <;> rfl

theorem key_injective {other : Kind} (h : kind.key = other.key) : kind = other := by
  have hkind := ofKey?_eq_some_iff.mpr h
  rw [ofKey?_eq_some_iff.mpr rfl, Option.some.injEq] at hkind
  exact hkind

theorem eq_mistyped_of_demand {fault : RuleFault} (h : kind.demand v = .error fault) :
    fault = .mistyped kind v := by
  unfold demand at h
  split at h
  · cases h
  · cases h
    rfl

end Kind

/-! ## Values under a key -/

/-- Under a known key a value is acceptable by its kind, under another one always. -/
def Acceptable (key : Text) (v : Json) : Prop :=
  ∀ kind : Kind, kind.key = key → kind.Accepts v

/-- A value as it is stored: never an empty text, and null or of its kind's type. -/
structure Settled (key : Text) (v : Json) : Prop where
  filled : v ≠ .string []
  typed : ∀ kind : Kind, kind.key = key → v = .null ∨ kind.Typed v

/-- What is stored for a value. -/
inductive Settles (key : Text) : Json → Json → Prop
  | blank : Settles key (.string []) .null
  | typedIn {kind : Kind} {s : Text} {n : Int} (hkey : kind.key = key)
      (hkind : kind = .minLength ∨ kind = .maxLength) (h : s.Denotes n) :
      Settles key (.string s) (.int n)
  | kept {v : Json} (h : Settled key v) : Settles key v v

variable {key : Text} {v w : Json}

theorem settled_iff_normalAt : Settled key v ↔ NormalAt key v := by
  constructor
  · rintro ⟨hfilled, htyped⟩
    refine ⟨hfilled, fun kind hkey => ?_⟩
    rw [Kind.admits_iff_typed]
    exact htyped kind (Kind.ofKey?_eq_some_iff.mp hkey).symm
  · rintro ⟨hfilled, htyped⟩
    refine ⟨hfilled, fun kind hkey => ?_⟩
    rw [← Kind.admits_iff_typed]
    exact htyped kind (Kind.ofKey?_eq_some_iff.mpr hkey.symm)

/-- Exactly the acceptable values have something to be stored for them. -/
theorem acceptable_iff_exists_settles : Acceptable key v ↔ ∃ w, Settles key v w := by
  constructor
  · intro h
    by_cases hblank : v = .string []
    · exact ⟨.null, hblank ▸ .blank⟩
    · by_cases hknown : ∃ kind : Kind, kind.key = key
      · obtain ⟨kind, rfl⟩ := hknown
        cases h kind rfl with
        | null => exact ⟨_, .kept ⟨hblank, fun _ _ => Or.inl rfl⟩⟩
        | empty => exact absurd rfl hblank
        | typed htyped =>
            refine ⟨v, .kept ⟨hblank, fun other hkey => Or.inr ?_⟩⟩
            rw [Kind.key_injective hkey]
            exact htyped
        | typedIn hkind hdenotes => exact ⟨_, .typedIn rfl hkind hdenotes⟩
      · exact ⟨v, .kept ⟨hblank, fun kind hkey => absurd ⟨kind, hkey⟩ hknown⟩⟩
  · rintro ⟨w, hw⟩ kind hkey
    cases hw with
    | blank => exact .empty
    | typedIn hother hkind hdenotes =>
        rw [← Kind.key_injective (hkey.trans hother.symm)] at hkind
        exact .typedIn hkind hdenotes
    | kept h =>
        rcases h.typed kind hkey with rfl | htyped
        · exact .null
        · exact .typed htyped

/-! ## Normalising -/

/-- The ways in which a value can stand under a key. -/
inductive Standing (key : Text) : Json → Prop
  | blank : Standing key (.string [])
  | unknown {v : Json} (hkey : ∀ kind : Kind, kind.key ≠ key) (hv : v ≠ .string []) :
      Standing key v
  | lengthText {kind : Kind} {s : Text} (hkey : kind.key = key)
      (hkind : kind = .minLength ∨ kind = .maxLength) (hs : s ≠ []) : Standing key (.string s)
  | known {kind : Kind} {v : Json} (hkey : kind.key = key) (hv : v ≠ .string [])
      (hother : kind = .minLength ∨ kind = .maxLength → ∀ s, v ≠ .string s) : Standing key v

theorem standing (key : Text) (v : Json) : Standing key v := by
  by_cases hv : v = .string []
  · exact hv ▸ .blank
  · by_cases hknown : ∃ kind : Kind, kind.key = key
    · obtain ⟨kind, hkey⟩ := hknown
      by_cases htext : (kind = .minLength ∨ kind = .maxLength) ∧ ∃ s, v = .string s
      · obtain ⟨hkind, s, rfl⟩ := htext
        exact .lengthText hkey hkind fun hs => hv (hs ▸ rfl)
      · exact .known hkey hv fun hkind s hs => htext ⟨hkind, s, hs⟩
    · exact .unknown (fun kind hkey => hknown ⟨kind, hkey⟩) hv

theorem normalValue_empty (key : Text) : normalValue key (.string []) = .ok .null := by
  unfold normalValue
  cases Kind.ofKey? key <;> rfl

theorem normalValue_unknown (hkey : ∀ kind : Kind, kind.key ≠ key) (hv : v ≠ .string []) :
    normalValue key v = .ok v := by
  have hnone : Kind.ofKey? key = none := by
    rw [Option.eq_none_iff_forall_ne_some]
    exact fun kind hkind => hkey kind (Kind.ofKey?_eq_some_iff.mp hkind).symm
  exact NormalAt.normalValue_eq ⟨hv, by simp [hnone]⟩

theorem normalValue_eq_demand {kind : Kind} (hv : v ≠ .string [])
    (hother : kind = .minLength ∨ kind = .maxLength → ∀ s, v ≠ .string s) :
    normalValue kind.key v = kind.demand v := by
  unfold normalValue
  rw [Kind.ofKey?_eq_some_iff.mpr rfl]
  cases v with
  | string s =>
      obtain ⟨c, rest, rfl⟩ := List.exists_cons_of_ne_nil fun hs : s = [] => hv (hs ▸ rfl)
      -- only lengths read texts as anything else
      cases kind with
      | minLength => exact absurd rfl (hother (Or.inl rfl) _)
      | maxLength => exact absurd rfl (hother (Or.inr rfl) _)
      | type | regex | canBeEmpty => rfl
  | null | bool _ | int _ | float _ | array _ | object _ => rfl

theorem normalValue_eq_ok_iff : normalValue key v = .ok w ↔ Settles key v w := by
  constructor
  · intro h
    cases standing key v with
    | blank =>
        rw [normalValue_empty] at h
        cases h
        exact .blank
    | unknown hkey hv =>
        rw [normalValue_unknown hkey hv] at h
        cases h
        exact .kept ⟨hv, fun kind hkind => absurd hkind (hkey kind)⟩
    | lengthText hkey hkind hs =>
        subst hkey
        obtain ⟨n, rfl, hdenotes⟩ := (normalValue_lengthText_eq_ok_iff hkind hs).mp h
        exact .typedIn rfl hkind hdenotes
    | known hkey hv hother =>
        subst hkey
        rw [normalValue_eq_demand hv hother] at h
        have hnormal := normalAt_of_demand (Kind.ofKey?_eq_some_iff.mpr rfl) hv h
        obtain ⟨rfl, -⟩ := Kind.demand_eq_ok_iff.mp h
        exact .kept (settled_iff_normalAt.mpr hnormal)
  · intro h
    cases h with
    | blank => exact normalValue_empty key
    | typedIn hkey hkind hdenotes =>
        subst hkey
        exact (normalValue_lengthText_eq_ok_iff hkind hdenotes.ne_nil).mpr ⟨_, rfl, hdenotes⟩
    | kept h => exact (settled_iff_normalAt.mp h).normalValue_eq

theorem exists_blames_of_error {fault : RuleFault} (h : normalValue key v = .error fault) :
    ∃ kind : Kind, kind.key = key ∧ kind.Blames v fault := by
  cases standing key v with
  | blank =>
      rw [normalValue_empty] at h
      cases h
  | unknown hkey hv =>
      rw [normalValue_unknown hkey hv] at h
      cases h
  | @lengthText kind s hkey hkind hs =>
      subst hkey
      rw [normalValue_lengthText hkind hs] at h
      cases hread : s.trim.toInteger with
      | ok n =>
          rw [hread] at h
          cases h
      | error why =>
          rw [hread] at h
          cases h
          exact ⟨kind, rfl, .notInteger s hkind why⟩
  | @known kind _ hkey hv hother =>
      subst hkey
      rw [normalValue_eq_demand hv hother] at h
      rw [Kind.eq_mistyped_of_demand h]
      exact ⟨kind, rfl, .mistyped hother⟩

theorem exists_normalValue_iff : (∃ w, normalValue key v = .ok w) ↔ Acceptable key v := by
  simp only [normalValue_eq_ok_iff, acceptable_iff_exists_settles]

theorem not_acceptable_of_error {fault : RuleFault} (h : normalValue key v = .error fault) :
    ¬ Acceptable key v := by
  rw [← exists_normalValue_iff]
  rintro ⟨w, hw⟩
  rw [h] at hw
  cases hw

/-! ## All rules of a field -/

/-- What is stored for an acceptable value. -/
def settle (key : Text) (v : Json) : Json :=
  (normalValue key v).toOption.getD .null

theorem settles_settle (h : Acceptable key v) : Settles key v (settle key v) := by
  obtain ⟨w, hw⟩ := exists_normalValue_iff.mpr h
  rw [settle, hw]
  exact normalValue_eq_ok_iff.mp hw

theorem eq_map_settle_of_normalRules {rules normal : Record Json}
    (h : normalRules rules = .ok normal) : normal = rules.map fun e => (e.1, settle e.1 e.2) := by
  have hall := normalRules_eq_ok_iff.mp h
  clear h
  induction hall with
  | nil => rfl
  | @cons e e' _ _ he _ ih =>
      obtain ⟨hkey, hvalue⟩ := he
      rw [List.map_cons, ← ih, settle, hvalue, ← hkey]
      rfl

open Outline

section

variable (name : Text) {rules : Record Json}

theorem Field.ofJson_persistedField_eq_ok_iff {f : Field} :
    Field.ofJson (persistedField (name, rules)) = .ok f
      ↔ ∃ normal, normalRules rules = .ok normal ∧ f = ⟨name, normal⟩ := by
  rw [Field.ofJson_persistedField]
  cases normalRules rules <;> simp [Except.map, Except.mapError, eq_comm]

theorem Field.ofJson_persistedField_eq_error_iff {rejection : Rejection} :
    Field.ofJson (persistedField (name, rules)) = .error rejection
      ↔ ∃ fault, normalRules rules = .error fault ∧ rejection = ruleRejection fault := by
  rw [Field.ofJson_persistedField]
  cases normalRules rules <;> simp [Except.map, Except.mapError, eq_comm]

/-- A field is refused for its first rule that is not acceptable, as if it had no other. -/
theorem Field.exists_of_ofJson_eq_error {rejection : Rejection}
    (h : Field.ofJson (persistedField (name, rules)) = .error rejection) :
    ∃ before key v after fault, rules = before ++ (key, v) :: after
      ∧ (∀ e ∈ before, Acceptable e.1 e.2) ∧ ¬ Acceptable key v
      ∧ (∃ kind : Kind, kind.key = key ∧ kind.Blames v fault)
      ∧ rejection = ruleRejection fault
      ∧ Field.ofJson (persistedField (name, [(key, v)])) = .error rejection := by
  obtain ⟨fault, hrules, rfl⟩ := (Field.ofJson_persistedField_eq_error_iff name).mp h
  obtain ⟨before, key, v, after, rfl, hbefore, hv⟩ := normalRules_eq_error_iff.mp hrules
  refine ⟨before, key, v, after, fault, rfl, ?_, not_acceptable_of_error hv,
    exists_blames_of_error hv, rfl, ?_⟩
  · simpa only [exists_normalValue_iff] using hbefore
  · have halone : normalRules [(key, v)] = .error fault :=
      normalRules_eq_error_iff.mpr ⟨[], key, v, [], rfl, by simp, hv⟩
    exact (Field.ofJson_persistedField_eq_error_iff name).mpr ⟨fault, halone, rfl⟩

end

/-! ## Loaded schemas -/

/-- Integers among rules are short enough to be written out. -/
theorem Json.Readable.length_toDigits {n : Int} (h : Json.Readable (.int n)) :
    (Nat.toDigits 10 n.natAbs).length ≤ 4300 := by
  cases h with
  | int hlt =>
      exact (Nat.length_toDigits_le_iff (k := maxIntegerDigits) (by decide) (by decide)).mpr hlt

theorem Schema.settled_of_load {t : Text} {s : Schema} (h : Schema.load t = .ok s) :
    ∀ m ∈ s, ∀ f ∈ m.fields, ∀ e ∈ f.rules, Settled e.1 e.2
      ∧ ∀ n, e.2 = .int n → (Nat.toDigits 10 n.natAbs).length ≤ 4300 := by
  intro m hm f hf e he
  have hholds := (Schema.holds_of_load h m hm).fields f hf
  refine ⟨settled_iff_normalAt.mpr (hholds.normal e he), fun n hn => ?_⟩
  cases hholds.rules with
  | object _ _ hvalues => exact (hn ▸ hvalues e he).length_toDigits

/-- A field is made exactly if each of its rules is acceptable on its own. It then has the
same keys in the same order, with a value under each that depends on nothing but the key
and the value that was given. Otherwise it is refused for the first rule that is not
acceptable. So in a loaded schema every rule is settled, and there is nothing in it that
compiling or checking could fail on. -/
theorem Field.rules_accepted_exactly :
    (∃ stored : Text → Json → Json,
        (∀ key v, Acceptable key v → Settles key v (stored key v))
          ∧ ∀ (name : Text) (rules : Record Json),
            ((∃ f, Field.ofJson (persistedField (name, rules)) = .ok f)
                ↔ ∀ e ∈ rules, Acceptable e.1 e.2)
              ∧ ∀ f, Field.ofJson (persistedField (name, rules)) = .ok f →
                  f = ⟨name, rules.map fun e => (e.1, stored e.1 e.2)⟩)
      ∧ (∀ name rules rejection,
          Field.ofJson (persistedField (name, rules)) = .error rejection →
          ∃ before key v after fault, rules = before ++ (key, v) :: after
            ∧ (∀ e ∈ before, Acceptable e.1 e.2) ∧ ¬ Acceptable key v
            ∧ (∃ kind : Kind, kind.key = key ∧ kind.Blames v fault)
            ∧ rejection = ruleRejection fault
            ∧ Field.ofJson (persistedField (name, [(key, v)])) = .error rejection)
      ∧ ∀ t s, Schema.load t = .ok s →
          (∀ m ∈ s, ∀ f ∈ m.fields, ∀ e ∈ f.rules, Settled e.1 e.2
              ∧ ∀ n, e.2 = .int n → (Nat.toDigits 10 n.natAbs).length ≤ 4300)
            ∧ (Draft.ofSchema s).compile = .ok s.compile
            ∧ (Draft.ofSchema s).check = .ok s.check := by
  refine ⟨⟨settle, fun _ _ => settles_settle, fun name rules => ⟨?_, fun f hf => ?_⟩⟩,
    fun name rules rejection => Field.exists_of_ofJson_eq_error name, fun t s hs => ?_⟩
  · simp only [Field.ofJson_persistedField_eq_ok_iff, ← exists_normalValue_iff,
      ← exists_normalRules_iff]
    constructor
    · rintro ⟨f, normal, hnormal, -⟩
      exact ⟨normal, hnormal⟩
    · rintro ⟨normal, hnormal⟩
      exact ⟨⟨name, normal⟩, normal, hnormal, rfl⟩
  · obtain ⟨normal, hnormal, rfl⟩ := (Field.ofJson_persistedField_eq_ok_iff name).mp hf
    rw [eq_map_settle_of_normalRules hnormal]
  · have hnormal : ∀ m ∈ s, ∀ f ∈ m.fields, NormalRules f.rules := fun m hm f hf =>
      ((Schema.holds_of_load hs m hm).fields f hf).normal
    exact ⟨Schema.settled_of_load hs, Draft.compile_ofSchema hnormal, Draft.check_ofSchema hnormal⟩

/-- A length that was typed in beside a rule of no known kind, a flag for a length before a
number for a type, and a schema with such a length and a reference that leads nowhere. -/
theorem Field.rules_accepted_exactly_flagForLength :
    (∃ f, Field.ofJson (persistedField ("f", [("note", .int 3), ("maxLength", .string " 7 ")]))
        = .ok f)
      ∧ (∃ before key v after fault,
          [(Text.ofString "minLength", Json.bool true), ("type", .int 3)]
              = before ++ (key, v) :: after
            ∧ ¬ Acceptable key v
            ∧ Field.ofJson (persistedField ("f", [(key, v)])) = .error (ruleRejection fault))
      ∧ ∃ s, Schema.load ("\x7b\"a\": \x7b\"f\": \x7b\"type\": \"b\", \"maxLength\": \" 7 \""
            ++ "\x7d\x7d\x7d") = .ok s
          ∧ (Draft.ofSchema s).compile = .ok s.compile
          ∧ (Draft.ofSchema s).check = .ok s.check := by
  obtain ⟨⟨stored, -, haccepted⟩, hrefused, hloaded⟩ := Field.rules_accepted_exactly
  refine ⟨?_, ?_, ?_⟩
  · refine (haccepted "f" _).1.mpr fun e he => ?_
    rw [← exists_normalValue_iff]
    simp only [List.mem_cons, List.not_mem_nil, or_false] at he
    rcases he with rfl | rfl
    · exact ⟨.int 3, rfl⟩
    · exact ⟨.int 7, by decide +kernel⟩
  · have hresult : Field.ofJson
        (persistedField ("f", [("minLength", .bool true), ("type", .int 3)]))
          = .error (ruleRejection (.mistyped .minLength (.bool true))) := rfl
    obtain ⟨before, key, v, after, fault, hsplit, -, hv, -, heq, halone⟩ :=
      hrefused "f" _ _ hresult
    exact ⟨before, key, v, after, fault, hsplit, hv, heq ▸ halone⟩
  · have hload : Schema.load ("\x7b\"a\": \x7b\"f\": \x7b\"type\": \"b\", \"maxLength\": \" 7 \""
        ++ "\x7d\x7d\x7d")
        = .ok [{ name := "a", fields :=
          [⟨"f", [("type", .string "b"), ("maxLength", .int 7)]⟩] }] := by
      decide +kernel
    exact ⟨_, hload, (hloaded _ _ hload).2⟩

end SecurityRules
