import Mathlib.Data.List.NodupEquivFin
import SecurityRules.Proofs.CheckLinking

/-!
# Models that share a validation function

The check reports the names of models that share their validation function with
another model. `Schema.duplicates_exact` says which names these are, by places in
the schema, and that they come out in groups, one for each function: the groups in
the order in which the functions first occur, and the names of a group in the order
in which they do.

The groups need not stand together in the schema, and a name may stand there several
times. So the order is said by first places: `Precedes` compares the first places of
two functions, and where they are the same function, those of the names.
-/

namespace SecurityRules

/-- The function of `a` occurs before that of `b`, or they have the same function and
`a` itself occurs before `b`. -/
def Precedes {α : Type} [BEq α] (function : α → Text) (names : List α) (a b : α) : Prop :=
  (names.map function).idxOf (function a) < (names.map function).idxOf (function b)
    ∨ function a = function b ∧ names.idxOf a < names.idxOf b

namespace Precedes

variable {α : Type} [BEq α] {function : α → Text} {names : List α} {a b c : α}

theorem ne (h : Precedes function names a b) : a ≠ b := by
  rintro rfl
  rcases h with hlt | ⟨-, hlt⟩
  · exact absurd hlt (Nat.lt_irrefl _)
  · exact absurd hlt (Nat.lt_irrefl _)

theorem le (h : Precedes function names a b) :
    (names.map function).idxOf (function a) ≤ (names.map function).idxOf (function b) := by
  rcases h with hlt | ⟨heq, -⟩
  · exact Nat.le_of_lt hlt
  · rw [heq]

/-- Names between two that share a function share it too. -/
theorem function_eq_between (hac : Precedes function names a c)
    (hcb : Precedes function names c b) (heq : function a = function b) :
    function c = function a := by
  rcases hac with hlt | ⟨hshared, -⟩
  · have hle := hcb.le
    rw [← heq] at hle
    exact absurd hlt (Nat.not_lt.mpr hle)
  · exact hshared.symm

end Precedes

/-! ## Each element once -/

section

variable {α : Type} [BEq α] [LawfulBEq α]

/-- Elements come out in the order of their first places. -/
theorem pairwise_distinct (l : List α) :
    (distinct l).Pairwise fun a b => l.idxOf a < l.idxOf b := by
  induction l with
  | nil => exact .nil
  | cons a l ih =>
      have htail : ∀ b ∈ (distinct l).filter (· != a), (a :: l).idxOf b = l.idxOf b + 1 := by
        intro b hb
        have hne : b ≠ a := by simpa using (List.mem_filter.mp hb).2
        exact List.idxOf_cons_ne l hne.symm
      rw [distinct, List.pairwise_cons]
      constructor
      · intro b hb
        rw [List.idxOf_cons_self, htail b hb]
        omega
      · refine (ih.filter _).imp_of_mem fun hb hc hlt => ?_
        rw [htail _ hb, htail _ hc]
        omega

theorem distinct_filter (p : α → Bool) (l : List α) :
    distinct (l.filter p) = (distinct l).filter p := by
  induction l with
  | nil => rfl
  | cons a l ih =>
      by_cases hp : p a
      · rw [List.filter_cons_of_pos hp, distinct, distinct, List.filter_cons_of_pos hp, ih,
          List.filter_filter, List.filter_filter]
        simp only [Bool.and_comm]
      · -- `a` is left out by the filter anyway
        rw [List.filter_cons_of_neg hp, distinct, List.filter_cons_of_neg hp, ih,
          List.filter_filter]
        refine List.filter_congr fun b _ => ?_
        cases hb : p b with
        | false => rfl
        | true =>
            have hne : b ≠ a := by
              rintro rfl
              exact hp hb
            simp [hne]

/-! ## Groups -/

variable {function : α → Text} {names : List α}

/-- The group of a function: the names that have it, each once, if there are at least
two places with it. -/
def sharers (function : α → Text) (names : List α) (f : Text) : List α :=
  let group := names.filter (function · == f)
  if group.length > 1 then distinct group else []

omit [LawfulBEq α] in
theorem duplicateNames_eq :
    duplicateNames function names
      = (distinct (names.map function)).flatMap (sharers function names) :=
  rfl

theorem mem_sharers {n : α} {f : Text} :
    n ∈ sharers function names f
      ↔ n ∈ names ∧ function n = f ∧ 1 < (names.map function).count f := by
  simp only [sharers, length_filter_function]
  split
  · next hcount =>
      rw [mem_distinct, List.mem_filter, beq_iff_eq]
      exact ⟨fun h => ⟨h.1, h.2, hcount⟩, fun h => ⟨h.1, h.2.1⟩⟩
  · next hcount => exact ⟨fun h => absurd h List.not_mem_nil, fun h => absurd h.2.2 hcount⟩

theorem pairwise_sharers (f : Text) :
    (sharers function names f).Pairwise fun a b => names.idxOf a < names.idxOf b := by
  simp only [sharers]
  split
  · rw [distinct_filter]
    exact (pairwise_distinct names).filter _
  · exact .nil

theorem mem_duplicateNames {n : α} :
    n ∈ duplicateNames function names
      ↔ n ∈ names ∧ 1 < (names.map function).count (function n) := by
  simp only [duplicateNames_eq, List.mem_flatMap, mem_distinct, mem_sharers]
  constructor
  · rintro ⟨_, -, hn, rfl, hcount⟩
    exact ⟨hn, hcount⟩
  · rintro ⟨hn, hcount⟩
    exact ⟨function n, List.mem_map_of_mem hn, hn, rfl, hcount⟩

/-- What occurs more than once stands at two places. -/
theorem one_lt_count_iff {l : List α} {a : α} :
    1 < l.count a ↔ ∃ i j : Nat, i < j ∧ l[i]? = some a ∧ l[j]? = some a := by
  have htwice : 1 < l.count a ↔ l.Duplicate a := by
    rw [List.duplicate_iff_sublist]
    exact List.replicate_sublist_iff.symm
  rw [htwice, List.duplicate_iff_exists_distinct_get]
  constructor
  · rintro ⟨i, j, hlt, hi, hj⟩
    exact ⟨i, j, hlt, by simp [hi], by simp [hj]⟩
  · rintro ⟨i, j, hlt, hi, hj⟩
    obtain ⟨hi, hi'⟩ := List.getElem?_eq_some_iff.mp hi
    obtain ⟨hj, hj'⟩ := List.getElem?_eq_some_iff.mp hj
    exact ⟨⟨i, hi⟩, ⟨j, hj⟩, hlt, hi'.symm, hj'.symm⟩

theorem mem_duplicateNames_iff_places {n : α} :
    n ∈ duplicateNames function names
      ↔ ∃ (i j : Nat) (b : α), i ≠ j ∧ names[i]? = some n ∧ names[j]? = some b
        ∧ function b = function n := by
  rw [mem_duplicateNames, one_lt_count_iff]
  simp only [List.getElem?_map, Option.map_eq_some_iff]
  constructor
  · rintro ⟨hmem, i, j, hlt, ⟨a, ha, hfa⟩, b, hb, hfb⟩
    obtain ⟨k, hk⟩ := List.mem_iff_getElem?.mp hmem
    -- the name stands at one of the two places at most, so the other one will do
    by_cases hki : k = i
    · exact ⟨k, j, b, by omega, hk, hb, hfb⟩
    · exact ⟨k, i, a, hki, hk, ha, hfa⟩
  · rintro ⟨i, j, b, hne, hi, hj, hfb⟩
    refine ⟨List.mem_of_getElem? hi, ?_⟩
    rcases Nat.lt_or_gt_of_ne hne with hlt | hlt
    · exact ⟨i, j, hlt, ⟨n, hi, rfl⟩, b, hj, hfb⟩
    · exact ⟨j, i, hlt, ⟨b, hj, hfb⟩, n, hi, rfl⟩

/-- Groups come in the order of their functions, and names in that of their places. -/
theorem pairwise_duplicateNames :
    (duplicateNames function names).Pairwise (Precedes function names) := by
  have hfunction : ∀ {f n}, n ∈ sharers function names f → function n = f :=
    fun hn => (mem_sharers.mp hn).2.1
  rw [duplicateNames_eq, List.pairwise_flatMap]
  constructor
  · intro f _
    refine (pairwise_sharers f).imp_of_mem fun ha hb hlt => ?_
    exact Or.inr ⟨(hfunction ha).trans (hfunction hb).symm, hlt⟩
  · refine (pairwise_distinct (names.map function)).imp fun hlt a ha b hb => ?_
    rw [← hfunction ha, ← hfunction hb] at hlt
    exact Or.inl hlt

end

/-- A name is reported exactly if it stands at some place and another place has the
same function. Nothing is reported twice, names that share a function stand together,
and all are in the order of first places. -/
theorem Schema.duplicates_exact (s : Schema) :
    (∀ n, n ∈ s.check.duplicates
        ↔ ∃ (i j : Nat) (m k : Model), i ≠ j ∧ s[i]? = some m ∧ s[j]? = some k ∧ m.name = n
          ∧ validatorName k.name = validatorName m.name)
      ∧ s.check.duplicates.Nodup
      ∧ s.check.duplicates.Pairwise (Precedes validatorName s.modelNames)
      ∧ ∀ before a between b after,
          s.check.duplicates = before ++ a :: (between ++ b :: after) →
          validatorName a = validatorName b → ∀ c ∈ between, validatorName c = validatorName a := by
  have horder : s.check.duplicates.Pairwise (Precedes validatorName s.modelNames) :=
    pairwise_duplicateNames
  refine ⟨fun n => ?_, horder.imp Precedes.ne, horder, ?_⟩
  · show n ∈ duplicateNames validatorName s.modelNames ↔ _
    rw [mem_duplicateNames_iff_places]
    simp only [Schema.modelNames, List.getElem?_map, Option.map_eq_some_iff]
    constructor
    · rintro ⟨i, j, _, hne, ⟨m, hm, rfl⟩, ⟨k, hk, rfl⟩, heq⟩
      exact ⟨i, j, m, k, hne, hm, hk, rfl, heq⟩
    · rintro ⟨i, j, m, k, hne, hm, hk, rfl, heq⟩
      exact ⟨i, j, k.name, hne, ⟨m, hm, rfl⟩, ⟨k, hk, rfl⟩, heq⟩
  · intro before a between b after hsplit heq c hc
    rw [hsplit] at horder
    obtain ⟨-, htail, -⟩ := List.pairwise_append.mp horder
    obtain ⟨ha, htail⟩ := List.pairwise_cons.mp htail
    obtain ⟨-, -, hbetween⟩ := List.pairwise_append.mp htail
    exact (ha c (by simp [hc])).function_eq_between (hbetween c hc b (by simp)) heq

/-- Two groups that lie across each other, one with a name that stands twice and one
with two spellings. -/
example : (Schema.check [{ name := "b" }, { name := "x" }, { name := "a" }, { name := "B" },
    { name := "a" }, { name := "b" }]).duplicates
      = [Text.ofString "b", Text.ofString "B", Text.ofString "a"] := by
  decide +kernel

end SecurityRules
