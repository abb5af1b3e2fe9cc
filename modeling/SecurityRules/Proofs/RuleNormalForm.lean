import SecurityRules.Proofs.JsonReadable
import SecurityRules.Schema.Normal

/-!
# Normal rules stay as they are

A value in normal form is never the empty text, and under a known kind it is
null or has the kind's type. Normalising gives such values and changes none that
already is one, so it can be done again and again. It keeps every key in its
place, and it makes no value that a document could not hold: an integer typed
into a text box is refused when it has too many digits for one.
-/

namespace SecurityRules

/-! ## One value -/

/-- A value in normal form under a key. -/
structure NormalAt (key : Text) (v : Json) : Prop where
  filled : v ≠ .string []
  typed : ∀ kind, Kind.ofKey? key = some kind → v = .null ∨ kind.admits v

theorem Kind.ofKey?_eq_some_iff {key : Text} {kind : Kind} :
    Kind.ofKey? key = some kind ↔ key = kind.key := by
  constructor
  · intro h
    have hkey := List.find?_some h
    exact (of_decide_eq_true hkey).symm
  · rintro rfl
    cases kind <;> rfl

theorem Kind.demand_eq_ok_iff {kind : Kind} {v w : Json} :
    kind.demand v = .ok w ↔ w = v ∧ (v = .null ∨ kind.admits v) := by
  unfold Kind.demand
  split
  · next h => exact ⟨fun heq => by cases heq; exact ⟨rfl, h⟩, fun heq => by rw [heq.1]⟩
  · next h => exact ⟨nofun, fun heq => absurd heq.2 h⟩

theorem normalAt_null (key : Text) : NormalAt key .null :=
  ⟨nofun, fun _ _ => Or.inl rfl⟩

theorem normalAt_of_demand {key : Text} {kind : Kind} (hkey : Kind.ofKey? key = some kind)
    {v w : Json} (hv : v ≠ .string []) (h : kind.demand v = .ok w) : NormalAt key w := by
  obtain ⟨rfl, htyped⟩ := Kind.demand_eq_ok_iff.mp h
  refine ⟨hv, fun kind' hkey' => ?_⟩
  rw [hkey, Option.some.injEq] at hkey'
  exact hkey' ▸ htyped

/-- What normalising can do to a value. -/
inductive Normalises (key : Text) : Json → Json → Prop
  | blank : Normalises key (.string []) .null
  | kept {v : Json} (h : NormalAt key v) : Normalises key v v
  | typedIn {s : Text} {n : Int} (hs : s ≠ []) (h : s.trim.toInteger = .ok n)
      (hn : NormalAt key (.int n)) : Normalises key (.string s) (.int n)

theorem normalises_of_ofInput {key : Text} {kind : Kind} (hkey : Kind.ofKey? key = some kind)
    {s : Text} (hs : s ≠ []) {w : Json} (h : (kind.ofInput s).bind kind.demand = .ok w) :
    Normalises key (.string s) w := by
  unfold Kind.ofInput at h
  split at h
  · split at h
    · next n hn =>
        have hnormal := normalAt_of_demand hkey (by nofun) h
        obtain ⟨rfl, -⟩ := Kind.demand_eq_ok_iff.mp h
        exact .typedIn hs hn hnormal
    · cases h
  · have hnormal := normalAt_of_demand hkey (by simpa using hs) h
    obtain ⟨rfl, -⟩ := Kind.demand_eq_ok_iff.mp h
    exact .kept hnormal

theorem normalises_of_normalValue {key : Text} {v w : Json} (h : normalValue key v = .ok w) :
    Normalises key v w := by
  unfold normalValue at h
  split at h
  · cases h
    exact .blank
  · next hkey hne =>
      cases h
      exact .kept ⟨hne, by simp [hkey]⟩
  · next kind s hne hkey => exact normalises_of_ofInput hkey hne h
  · next kind hkey hne hstring =>
      have hnormal := normalAt_of_demand hkey hne h
      obtain ⟨rfl, -⟩ := Kind.demand_eq_ok_iff.mp h
      exact .kept hnormal

theorem Normalises.normalAt {key : Text} {v w : Json} (h : Normalises key v w) :
    NormalAt key w := by
  cases h with
  | blank => exact normalAt_null key
  | kept h => exact h
  | typedIn _ _ hn => exact hn

theorem NormalAt.normalValue_eq {key : Text} {v : Json} (h : NormalAt key v) :
    normalValue key v = .ok v := by
  unfold normalValue
  split
  · exact absurd rfl h.filled
  · rfl
  · -- a text would be read as a number under a length, but no length admits a text
    next kind s hne hkey =>
      have hadmits : kind.admits (.string s) := by simpa using h.typed kind hkey
      have hlength : kind.isLength = false := by
        cases kind with
        | minLength | maxLength => cases hadmits
        | type | regex | canBeEmpty => rfl
      rw [Kind.ofInput, if_neg (by simp [hlength])]
      exact Kind.demand_eq_ok_iff.mpr ⟨rfl, Or.inr hadmits⟩
  · next kind hkey hne hstring => exact Kind.demand_eq_ok_iff.mpr ⟨rfl, h.typed kind hkey⟩

/-! ## All rules of a field -/

/-- Rules in normal form. -/
def NormalRules (rules : Record Json) : Prop :=
  ∀ e ∈ rules, NormalAt e.1 e.2

/-- Every rule has its normal form on its own. -/
theorem normalRules_eq_ok_iff {rules normal : Record Json} :
    normalRules rules = .ok normal
      ↔ List.Forall₂ (fun e e' => e'.1 = e.1 ∧ normalValue e.1 e.2 = .ok e'.2) rules normal := by
  induction rules generalizing normal with
  | nil => simp [normalRules, eq_comm]
  | cons e rules ih =>
      obtain ⟨key, v⟩ := e
      rw [normalRules, List.forall₂_cons_left_iff]
      constructor
      · intro h
        split at h
        · cases h
        · next w hw =>
            obtain ⟨rest, hrest, rfl⟩ := exceptMap_eq_ok h
            exact ⟨(key, w), rest, ⟨rfl, hw⟩, ih.mp hrest, rfl⟩
      · rintro ⟨⟨_, w⟩, rest, ⟨rfl, hw⟩, hrest, rfl⟩
        rw [hw, ih.mpr hrest]
        rfl

theorem forall₂_of_normalRules {rules normal : Record Json} (h : normalRules rules = .ok normal) :
    List.Forall₂ (fun e e' => e'.1 = e.1 ∧ Normalises e.1 e.2 e'.2) rules normal :=
  (normalRules_eq_ok_iff.mp h).imp fun _ _ he => ⟨he.1, normalises_of_normalValue he.2⟩

theorem normalRules_append (before after : Record Json) :
    normalRules (before ++ after)
      = (normalRules before).bind fun normal => (normalRules after).map (normal ++ ·) := by
  induction before with
  | nil => cases h : normalRules after <;> simp [normalRules, Except.bind, Except.map, h]
  | cons e before ih =>
      obtain ⟨key, v⟩ := e
      rw [List.cons_append, normalRules, normalRules, ih]
      cases normalValue key v with
      | error fault => rfl
      | ok w =>
          cases normalRules before with
          | error fault => rfl
          | ok normal => cases normalRules after <;> rfl

/-- A rule among others that have their normal forms. -/
theorem normalRules_between {before after normalBefore normalAfter : Record Json}
    (hbefore : normalRules before = .ok normalBefore) (hafter : normalRules after = .ok normalAfter)
    (key : Text) (v : Json) :
    normalRules (before ++ (key, v) :: after)
      = (normalValue key v).map fun w => normalBefore ++ (key, w) :: normalAfter := by
  rw [normalRules_append, hbefore, normalRules, hafter]
  cases normalValue key v <;> rfl

theorem exists_normalRules_iff {rules : Record Json} :
    (∃ normal, normalRules rules = .ok normal)
      ↔ ∀ e ∈ rules, ∃ w, normalValue e.1 e.2 = .ok w := by
  simp only [normalRules_eq_ok_iff]
  constructor
  · rintro ⟨normal, h⟩
    induction h with
    | nil => simp
    | cons he _ ih =>
        rw [List.forall_mem_cons]
        exact ⟨⟨_, he.2⟩, ih⟩
  · intro h
    induction rules with
    | nil => exact ⟨[], .nil⟩
    | cons e rules ih =>
        obtain ⟨w, hw⟩ := h e (by simp)
        obtain ⟨normal, hnormal⟩ := ih fun e he => h e (by simp [he])
        exact ⟨(e.1, w) :: normal, .cons ⟨rfl, hw⟩ hnormal⟩

/-- Rules are refused for the first of them that has no normal form. -/
theorem normalRules_eq_error_iff {rules : Record Json} {fault : RuleFault} :
    normalRules rules = .error fault
      ↔ ∃ before key v after, rules = before ++ (key, v) :: after
        ∧ (∀ e ∈ before, ∃ w, normalValue e.1 e.2 = .ok w) ∧ normalValue key v = .error fault := by
  constructor
  · intro h
    induction rules with
    | nil => cases h
    | cons e rules ih =>
        obtain ⟨key, v⟩ := e
        rw [normalRules] at h
        split at h
        · next fault' hfault =>
            cases h
            exact ⟨[], key, v, rules, rfl, by simp, hfault⟩
        · next w hw =>
            cases hrest : normalRules rules with
            | ok normal => rw [hrest] at h; cases h
            | error fault' =>
                rw [hrest] at h
                cases h
                obtain ⟨before, key', v', after, rfl, hbefore, hv'⟩ := ih hrest
                refine ⟨(key, v) :: before, key', v', after, rfl, ?_, hv'⟩
                rw [List.forall_mem_cons]
                exact ⟨⟨w, hw⟩, hbefore⟩
  · rintro ⟨before, key, v, after, rfl, hbefore, hv⟩
    obtain ⟨normal, hnormal⟩ := exists_normalRules_iff.mpr hbefore
    rw [normalRules_append, hnormal, normalRules, hv]
    rfl

theorem keys_of_normalRules {rules normal : Record Json} (h : normalRules rules = .ok normal) :
    normal.keys = rules.keys := by
  have hall := forall₂_of_normalRules h
  clear h
  induction hall with
  | nil => rfl
  | cons h _ ih =>
      simp only [Record.keys, List.map_cons] at ih ⊢
      rw [h.1, ih]

theorem exists_of_mem_normalRules {rules normal : Record Json} (h : normalRules rules = .ok normal)
    {e : Text × Json} (he : e ∈ normal) : ∃ v, (e.1, v) ∈ rules ∧ Normalises e.1 v e.2 := by
  have hall := forall₂_of_normalRules h
  clear h
  induction hall with
  | nil => cases he
  | @cons a b _ _ h _ ih =>
      rcases List.mem_cons.mp he with rfl | he
      · exact ⟨a.2, by simp [h.1], h.1 ▸ h.2⟩
      · obtain ⟨v, hv, hnormal⟩ := ih he
        exact ⟨v, by simp [hv], hnormal⟩

theorem normal_of_normalRules {rules normal : Record Json} (h : normalRules rules = .ok normal) :
    NormalRules normal := by
  intro e he
  obtain ⟨v, -, hv⟩ := exists_of_mem_normalRules h he
  exact hv.normalAt

theorem NormalRules.normalRules_eq {rules : Record Json} (h : NormalRules rules) :
    normalRules rules = .ok rules := by
  induction rules with
  | nil => rfl
  | cons e rules ih =>
      obtain ⟨key, v⟩ := e
      rw [normalRules, (h (key, v) (by simp)).normalValue_eq, ih fun e he => h e (by simp [he])]
      rfl

/-! ## Integers from text boxes -/

theorem CodePoint.digit?_lt {c : CodePoint} {d : Nat} (h : c.digit? = some d) : d < 10 := by
  obtain ⟨start, hfind, rfl⟩ := Option.map_eq_some_iff.mp h
  have hrange := List.find?_some hfind
  simp only [Bool.and_eq_true, decide_eq_true_eq] at hrange
  omega

theorem digitGroups?_lt {before : DigitNeighbour} {t rest : Text} {digits : List Nat}
    (h : digitGroups? before t = some (digits, rest)) : ∀ d ∈ digits, d < 10 := by
  fun_induction digitGroups? before t generalizing digits rest with
  | case1 => cases h
  | case2 => cases h; simp
  | case3 before c more d hd ih =>
      obtain ⟨⟨ds, after⟩, hmore, heq⟩ := Option.map_eq_some_iff.mp h
      cases heq
      intro e he
      rcases List.mem_cons.mp he with rfl | he
      · exact CodePoint.digit?_lt hd
      · exact ih hmore e he
  | case4 more hc ih => exact ih h
  | case5 => cases h
  | case6 => cases h
  | case7 => cases h; simp

theorem ofDigitValues_lt {digits : List Nat} (h : ∀ d ∈ digits, d < 10) :
    ofDigitValues digits < 10 ^ digits.length := by
  induction digits using List.reverseRecOn with
  | nil => decide
  | append_singleton digits d ih =>
      have hd : d < 10 := h d (by simp)
      have hdigits := ih fun e he => h e (by simp [he])
      simp only [ofDigitValues, List.foldl_append, List.foldl_cons, List.foldl_nil,
        List.length_append, List.length_singleton, Nat.pow_succ] at hdigits ⊢
      omega

theorem Text.toInteger_natAbs_lt {t : Text} {n : Int} (h : t.toInteger = .ok n) :
    n.natAbs < 10 ^ maxIntegerDigits := by
  unfold Text.toInteger at h
  simp only at h
  split at h
  · cases h
  · next digits rest hdigits =>
      split at h
      · cases h
      · next hlength =>
          split at h
          · cases h
          · cases h
            have hlt := ofDigitValues_lt (digitGroups?_lt hdigits)
            have hle : 10 ^ digits.length ≤ 10 ^ maxIntegerDigits :=
              Nat.pow_le_pow_right (by decide) (by omega)
            rw [natAbs_signed]
            omega

/-- Normalising makes no value that a document could not hold. -/
theorem Json.Readable.normalRules {rules normal : Record Json} (h : Readable (.object rules))
    (hnormal : normalRules rules = .ok normal) : Readable (.object normal) := by
  cases h with
  | object hdistinct hkeys hvalues =>
      have hsame := keys_of_normalRules hnormal
      refine .object (hsame ▸ hdistinct) (hsame ▸ hkeys) fun e he => ?_
      obtain ⟨v, hv, hnormalises⟩ := exists_of_mem_normalRules hnormal he
      have hreadable := hvalues _ hv
      generalize e.2 = w at hnormalises
      cases hnormalises with
      | blank => exact .null
      | kept _ => exact hreadable
      | typedIn _ hn _ => exact .int (Text.toInteger_natAbs_lt hn)

end SecurityRules
