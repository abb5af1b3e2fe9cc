import SecurityRules.Proofs.SharedFunctions

/-!
# Checking two schemas as one

Models may be kept in several schemas and put together. What the check says of the
whole is told here by what it says of the parts and by which functions the parts
declare.

The warnings are about one model each, so they are those of the parts. The errors are
about a model among others: a function that the other part declares settles a reference,
and it also collides with a model of the same function. So references get fewer and
shared functions more, and `Schema.check_append` says by how much.
-/

namespace SecurityRules

/-! ## References -/

section

variable {defined more all : List Text}
  (h : ∀ function, function ∈ all ↔ function ∈ defined ∨ function ∈ more)

include h

theorem Field.danglingTarget?_of_more (f : Field) :
    f.danglingTarget? all
      = (f.danglingTarget? defined).filter fun target => validatorName target ∉ more := by
  rw [Field.danglingTarget?_eq, Field.danglingTarget?_eq]
  cases (f.rule .type).reference? with
  | none => rfl
  | some target =>
      by_cases hdefined : validatorName target ∈ defined
      · simp [h, hdefined, Option.filter]
      · simp [h, hdefined, Option.filter]

/-- With more functions declared, the references that stay are those to none of them. -/
theorem Model.dangling_of_more (m : Model) :
    m.dangling all = (m.dangling defined).filter fun d => validatorName d.target ∉ more := by
  rw [Model.dangling, Model.dangling, List.filter_filterMap]
  refine List.filterMap_congr fun f _ => ?_
  rw [f.danglingTarget?_of_more h, Option.filter_map]
  rfl

theorem Schema.flatMap_dangling_of_more (s : Schema) :
    s.flatMap (Model.dangling all)
      = (s.flatMap (Model.dangling defined)).filter fun d => validatorName d.target ∉ more := by
  rw [List.filter_flatMap]
  exact List.flatMap_congr fun m _ => m.dangling_of_more h

end

namespace Schema

variable (s t : Schema)

theorem functions_append : (s ++ t).functions = s.functions ++ t.functions :=
  List.map_append

theorem dangling_append :
    (s ++ t).check.dangling
      = (s.check.dangling.filter fun d => ¬ t.Declares (validatorName d.target))
        ++ t.check.dangling.filter fun d => ¬ s.Declares (validatorName d.target) := by
  show (s ++ t).flatMap (Model.dangling (s ++ t).functions) = _
  have hs : ∀ function, function ∈ (s ++ t).functions
      ↔ function ∈ s.functions ∨ function ∈ t.functions := by
    intro function
    rw [functions_append, List.mem_append]
  have ht : ∀ function, function ∈ (s ++ t).functions
      ↔ function ∈ t.functions ∨ function ∈ s.functions :=
    fun function => (hs function).trans or_comm
  rw [List.flatMap_append, flatMap_dangling_of_more hs s, flatMap_dangling_of_more ht t]
  simp only [declares_iff]
  rfl

/-! ## Shared functions -/

theorem mem_duplicates_iff {n : Text} :
    n ∈ s.check.duplicates ↔ n ∈ s.modelNames ∧ 1 < s.functions.count (validatorName n) := by
  rw [functions_eq]
  exact mem_duplicateNames

theorem count_functions_pos {n : Text} (hn : n ∈ s.modelNames) :
    0 < s.functions.count (validatorName n) := by
  rw [List.count_pos_iff, functions_eq]
  exact List.mem_map_of_mem hn

/-- A name that collides in the whole collides in its part, or the other part declares
its function. -/
theorem mem_duplicates_append {n : Text} :
    n ∈ (s ++ t).check.duplicates
      ↔ n ∈ s.check.duplicates ∨ n ∈ t.check.duplicates
        ∨ n ∈ s.modelNames ∧ t.Declares (validatorName n)
        ∨ n ∈ t.modelNames ∧ s.Declares (validatorName n) := by
  have hnames : (s ++ t).modelNames = s.modelNames ++ t.modelNames := List.map_append
  have hdeclares : ∀ r : Schema, r.Declares (validatorName n)
      ↔ 0 < r.functions.count (validatorName n) := by
    intro r
    rw [declares_iff, List.count_pos_iff]
  simp only [mem_duplicates_iff, hdeclares, hnames, functions_append, List.count_append,
    List.mem_append]
  constructor
  · rintro ⟨hn | hn, hcount⟩
    · have hpos := s.count_functions_pos hn
      by_cases hshared : 1 < s.functions.count (validatorName n)
      · exact Or.inl ⟨hn, hshared⟩
      · exact Or.inr (Or.inr (Or.inl ⟨hn, by omega⟩))
    · have hpos := t.count_functions_pos hn
      by_cases hshared : 1 < t.functions.count (validatorName n)
      · exact Or.inr (Or.inl ⟨hn, hshared⟩)
      · exact Or.inr (Or.inr (Or.inr ⟨hn, by omega⟩))
  · rintro (⟨hn, hcount⟩ | ⟨hn, hcount⟩ | ⟨hn, hcount⟩ | ⟨hn, hcount⟩)
    · exact ⟨Or.inl hn, by omega⟩
    · exact ⟨Or.inr hn, by omega⟩
    · have hpos := s.count_functions_pos hn
      exact ⟨Or.inl hn, by omega⟩
    · have hpos := t.count_functions_pos hn
      exact ⟨Or.inr hn, by omega⟩

/-- What the check says of two schemas in sequence: the warnings of both, the references
of each that the other does not settle, with their messages, and all names that collide
in one of them or with the other. -/
theorem check_append :
    (s ++ t).check.ownerless = s.check.ownerless ++ t.check.ownerless
      ∧ (s ++ t).check.ignored = s.check.ignored ++ t.check.ignored
      ∧ (s ++ t).check.empty = s.check.empty ++ t.check.empty
      ∧ (s ++ t).check.dangling
          = (s.check.dangling.filter fun d => ¬ t.Declares (validatorName d.target))
            ++ (t.check.dangling.filter fun d => ¬ s.Declares (validatorName d.target))
      ∧ ∀ n, n ∈ (s ++ t).check.duplicates
          ↔ n ∈ s.check.duplicates ∨ n ∈ t.check.duplicates
            ∨ n ∈ s.modelNames ∧ t.Declares (validatorName n)
            ∨ n ∈ t.modelNames ∧ s.Declares (validatorName n) := by
  refine ⟨?_, List.flatMap_append, ?_, s.dangling_append t, fun n => s.mem_duplicates_append t⟩
  · simp only [check, List.filter_append, List.map_append]
  · simp only [check, List.filter_append, List.map_append]

end Schema

end SecurityRules
