import SecurityRules.Proofs.CombinedSchemas

/-!
# Models may stand in any order

A schema may list its models in another order. The check then finds the same, each
finding as often as before, so that the verdict and the counts stay as they are.

Warnings are about one model each and move with it. The errors are about a model among
all the others. For a reference it only matters which functions are declared, wherever
the models stand that declare them. Shared functions are grouped by where they first
occur, so the names come out in another order; which names these are depends on how
often each function occurs, and none comes out twice.
-/

namespace SecurityRules

/-- `q` has the findings of `r`, each as often, maybe in another order. -/
structure Report.Rearranged (r q : Report) : Prop where
  dangling : q.dangling.Perm r.dangling
  duplicates : q.duplicates.Perm r.duplicates
  ownerless : q.ownerless.Perm r.ownerless
  ignored : q.ignored.Perm r.ignored
  empty : q.empty.Perm r.empty

namespace Report.Rearranged

variable {r q : Report} (h : r.Rearranged q)

include h

theorem errorCount_eq : q.errorCount = r.errorCount := by
  rw [errorCount, errorCount, h.dangling.length_eq, h.duplicates.length_eq]

theorem warningCount_eq : q.warningCount = r.warningCount := by
  rw [warningCount, warningCount, h.ownerless.length_eq, h.ignored.length_eq, h.empty.length_eq]

end Report.Rearranged

/-- References are settled by which functions are declared, not by where. -/
theorem Model.dangling_congr {defined other : List Text}
    (h : ∀ function, function ∈ other ↔ function ∈ defined) (m : Model) :
    m.dangling other = m.dangling defined := by
  have hnone : ∀ function, function ∈ other ↔ function ∈ defined ∨ function ∈ ([] : List Text) := by
    simpa using h
  rw [m.dangling_of_more hnone]
  simp

theorem nodup_duplicateNames {α : Type} [BEq α] [LawfulBEq α] {function : α → Text}
    {names : List α} : (duplicateNames function names).Nodup :=
  pairwise_duplicateNames.imp Precedes.ne

theorem perm_duplicateNames {α : Type} [BEq α] [LawfulBEq α] {function : α → Text}
    {names moved : List α} (h : moved.Perm names) :
    (duplicateNames function moved).Perm (duplicateNames function names) := by
  rw [List.perm_ext_iff_of_nodup nodup_duplicateNames nodup_duplicateNames]
  intro n
  rw [mem_duplicateNames, mem_duplicateNames, h.mem_iff, (h.map function).count_eq]

namespace Schema

/-- The verdict is that there is no error. -/
theorem valid_check_iff_errorCount {s : Schema} :
    s.check.valid = true ↔ s.check.errorCount = 0 := by
  rw [valid_check_iff, Report.errorCount, Nat.add_eq_zero_iff, List.length_eq_zero_iff,
    List.length_eq_zero_iff]

section

variable {s t : Schema} (h : t.Perm s)

include h

theorem perm_dangling : t.check.dangling.Perm s.check.dangling := by
  have hfunctions : t.functions.Perm s.functions := h.map _
  have hmodel : Model.dangling t.functions = Model.dangling s.functions :=
    funext fun m => m.dangling_congr fun _ => hfunctions.mem_iff
  show (t.flatMap (Model.dangling t.functions)).Perm (s.flatMap (Model.dangling s.functions))
  rw [hmodel]
  exact h.flatMap_right _

theorem rearranged_check : s.check.Rearranged t.check where
  dangling := perm_dangling h
  duplicates := perm_duplicateNames (h.map _)
  ownerless := (h.filter _).map _
  ignored := h.flatMap_right _
  empty := (h.filter _).map _

end

/-- Moving models leaves the verdict and both counts as they are, and only moves what
the check found. -/
theorem check_moved {s t : Schema} (h : t.Perm s) :
    t.check.valid = s.check.valid
      ∧ t.check.errorCount = s.check.errorCount
      ∧ t.check.warningCount = s.check.warningCount
      ∧ t.check.dangling.Perm s.check.dangling
      ∧ t.check.duplicates.Perm s.check.duplicates
      ∧ t.check.ownerless.Perm s.check.ownerless
      ∧ t.check.ignored.Perm s.check.ignored
      ∧ t.check.empty.Perm s.check.empty := by
  have hfound := rearranged_check h
  have hvalid : t.check.valid = s.check.valid := by
    rw [Bool.eq_iff_iff, valid_check_iff_errorCount, valid_check_iff_errorCount,
      hfound.errorCount_eq]
  exact ⟨hvalid, hfound.errorCount_eq, hfound.warningCount_eq, hfound.dangling, hfound.duplicates,
    hfound.ownerless, hfound.ignored, hfound.empty⟩

/-- Two groups that lie across each other, and a model that refers to a later one and to
none. Turned round, the first reference is to an earlier model, and the groups change
places. -/
theorem check_moved_turnedRound :
    ∃ s t : Schema, t = s.reverse
      ∧ s.check.duplicates = [Text.ofString "b", Text.ofString "B", Text.ofString "a"]
      ∧ t.check.duplicates = [Text.ofString "a", Text.ofString "B", Text.ofString "b"]
      ∧ s.check.dangling.map (·.target) = [Text.ofString "z"]
      ∧ t.check.duplicates.Perm s.check.duplicates
      ∧ t.check.dangling.Perm s.check.dangling
      ∧ t.check.errorCount = s.check.errorCount := by
  have hmoved := check_moved (List.reverse_perm
    [{ name := "b", fields := [⟨"f", [("type", .string "a")]⟩, ⟨"g", [("type", .string "z")]⟩] },
      { name := "a" }, { name := "B" }, ({ name := "a" } : Model)])
  obtain ⟨-, herrors, -, hdangling, hduplicates, -⟩ := hmoved
  exact ⟨_, _, rfl, by decide +kernel, by decide +kernel, by decide +kernel, hduplicates,
    hdangling, herrors⟩

end Schema

end SecurityRules
