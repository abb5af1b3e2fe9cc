import SecurityRules.Proofs.CheckLinking

/-!
# Capitalised names stay as they are

A model is found by its name and by its capitalised name alike, because
capitalising twice is the same as capitalising once. That is a fact about the
whole case mapping: a first character may become up to three, and only the
first of these is looked at the second time. It never has an upper case of its
own.

The fact is checked character by character. The characters with an upper case
are the bits of one number, so that a look at a bit tells whether a character
is among them.
-/

namespace SecurityRules

/-! ## Characters with an upper case -/

namespace CaseRun

/-- The numbers of the characters of a run. -/
def members (run : CaseRun) : List Nat :=
  List.range' run.first ((run.last - run.first) / run.step + 1) run.step

theorem mem_members {run : CaseRun} {n : Nat} (h : run.covers n) : n ∈ run.members := by
  simp only [covers, Bool.and_eq_true, decide_eq_true_eq, and_assoc] at h
  obtain ⟨hfirst, hlast, hstep⟩ := h
  have hsplit := Nat.div_add_mod (n - run.first) run.step
  have hplace : (n - run.first) / run.step ≤ (run.last - run.first) / run.step :=
    Nat.div_le_div_right (by omega)
  exact List.mem_range'.mpr ⟨(n - run.first) / run.step, by omega, by omega⟩

end CaseRun

/-- The numbers of the characters with an upper case. -/
def cased : List Nat :=
  upperRuns.flatMap CaseRun.members ++ caseExpansions.map (·.1)

/-- The same numbers as the bits of one. -/
def casedBits : Nat :=
  cased.foldr (fun n bits => 1 <<< n ||| bits) 0

theorem testBit_foldr (numbers : List Nat) (n : Nat) :
    (numbers.foldr (fun n bits => 1 <<< n ||| bits) 0).testBit n = decide (n ∈ numbers) := by
  induction numbers with
  | nil => simp
  | cons k numbers ih =>
      rw [List.foldr_cons, Nat.testBit_or, Nat.one_shiftLeft, Nat.testBit_two_pow, ih]
      simp [eq_comm]

theorem upperNumbers_of_notMem_cased {n : Nat} (h : n ∉ cased) : upperNumbers n = [n] := by
  simp only [cased, List.mem_append, List.mem_flatMap, List.mem_map, not_or, not_exists,
    not_and] at h
  have hlookup : caseExpansions.lookup n = none :=
    List.lookup_eq_none_iff.mpr fun e he => by simpa using fun heq => h.2 e he heq.symm
  have hfind : upperRuns.find? (·.covers n) = none :=
    List.find?_eq_none.mpr fun run hrun hcovers => h.1 run hrun (CaseRun.mem_members hcovers)
  rw [upperNumbers, hlookup]
  simp only [CaseRun.move, hfind]

/-- Whether a number is that of a code point without an upper case. -/
def isUncased (n : Nat) : Bool :=
  !casedBits.testBit n && n.blt 0x110000

theorem isUncased_of_run : ∀ run ∈ upperRuns, run.members.all fun n =>
    isUncased (n + run.shift).toNat := by
  decide +kernel

theorem isUncased_of_expansion : ∀ e ∈ caseExpansions, ∃ first ∈ e.2.head?, isUncased first := by
  decide +kernel

theorem isUncased_iff {n : Nat} : isUncased n = true ↔ n ∉ cased ∧ n < 0x110000 := by
  simp [isUncased, casedBits, testBit_foldr]

/-- The first character of an upper case has no upper case of its own, unless
nothing changes at all. -/
theorem exists_upperNumbers_eq (n : Nat) :
    upperNumbers n = [n] ∨ ∃ first rest, upperNumbers n = first :: rest ∧ isUncased first := by
  cases hlookup : caseExpansions.lookup n with
  | some expansion =>
      obtain ⟨before, after, hsplit, -⟩ := List.lookup_eq_some_iff.mp hlookup
      obtain ⟨first, hfirst, huncased⟩ :=
        isUncased_of_expansion (n, expansion) (by rw [hsplit]; simp)
      obtain ⟨rest, rfl⟩ := List.head?_eq_some_iff.mp hfirst
      refine Or.inr ⟨first, rest, ?_, huncased⟩
      rw [upperNumbers, hlookup]
  | none =>
      rw [upperNumbers, hlookup, CaseRun.move]
      cases hfind : upperRuns.find? (·.covers n) with
      | none => exact Or.inl rfl
      | some run =>
          have hcovers := List.find?_some hfind
          have hrun := isUncased_of_run run (List.mem_of_find?_eq_some hfind)
          exact Or.inr ⟨_, [], rfl, List.all_eq_true.mp hrun n (CaseRun.mem_members hcovers)⟩

/-! ## Names -/

theorem CodePoint.upper_eq_self {c : CodePoint} (h : upperNumbers c.toNat = [c.toNat]) :
    c.upper = [c] := by
  rw [CodePoint.upper, h]
  exact if_pos rfl

theorem CodePoint.exists_upper_eq (c : CodePoint) :
    ∃ first rest, c.upper = first :: rest ∧ first.upper = [first] := by
  rcases exists_upperNumbers_eq c.toNat with hself | ⟨first, rest, hupper, huncased⟩
  · have hc := CodePoint.upper_eq_self hself
    exact ⟨c, [], hc, hc⟩
  · obtain ⟨hcased, hbound⟩ := isUncased_iff.mp huncased
    have hfirst : (CodePoint.ofNat first).upper = [.ofNat first] := by
      refine CodePoint.upper_eq_self ?_
      rw [CodePoint.toNat_ofNat hbound, upperNumbers_of_notMem_cased hcased]
    cases rest with
    | cons second rest =>
        refine ⟨.ofNat first, .ofNat second :: rest.map .ofNat, ?_, hfirst⟩
        rw [CodePoint.upper, hupper]
        rfl
    | nil =>
        by_cases hsame : first = c.toNat
        · have hc := CodePoint.upper_eq_self (hsame ▸ hupper)
          exact ⟨c, [], hc, hc⟩
        · refine ⟨.ofNat first, [], ?_, hfirst⟩
          rw [CodePoint.upper, hupper]
          exact if_neg hsame

theorem capitalize_capitalize (name : Text) : capitalize (capitalize name) = capitalize name := by
  cases name with
  | nil => rfl
  | cons c tail =>
      obtain ⟨first, rest, hupper, hstable⟩ := c.exists_upper_eq
      rw [capitalize, hupper, List.cons_append, capitalize, hstable]
      rfl

theorem validatorName_eq_iff {a b : Text} :
    validatorName a = validatorName b ↔ capitalize a = capitalize b := by
  simp only [validatorName, List.append_cancel_right_eq, List.append_cancel_left_eq]

/-! ## References -/

theorem Json.reference?_string {type : Text} (hfilled : type ≠ [])
    (htype : isPrimitiveType type = false) : (Json.string type).reference? = some type := by
  have hblank : (Json.string type).isBlank = false := by
    cases type with
    | nil => exact absurd rfl hfilled
    | cons c type => rfl
  have hdisplay : (Json.string type).display = type := rfl
  rw [Json.reference?, hblank, hdisplay, htype]
  rfl

/-- A reference whose function is declared is not reported. -/
theorem Schema.target_ne_of_mem_dangling {s : Schema} {type : Text}
    (h : validatorName type ∈ s.functions) {d : DanglingReference} (hd : d ∈ s.check.dangling) :
    d.target ≠ type := by
  rintro rfl
  obtain ⟨m, -, hm⟩ := List.mem_flatMap.mp hd
  obtain ⟨f, -, hf⟩ := List.mem_filterMap.mp hm
  obtain ⟨target, htarget, rfl⟩ := Option.map_eq_some_iff.mp hf
  rw [Field.danglingTarget?_eq, Option.filter_eq_some_iff] at htarget
  exact absurd h (of_decide_eq_true htarget.2)

/-- Capitalising is stable, and models share a function exactly if their capitalised
names are the same. So a field that refers to a model by its name, capitalised or
not, calls the function that the model declares and no other, and is not reported. -/
theorem capitalize_stable :
    (∀ name, capitalize (capitalize name) = capitalize name)
      ∧ (∀ a b, validatorName a = validatorName b ↔ capitalize a = capitalize b)
      ∧ ∀ (s : Schema) (m : Model) (type : Text), m ∈ s →
          type = m.name ∨ type = capitalize m.name → type ≠ [] → isPrimitiveType type = false →
          m.Declares (validatorName type)
            ∧ (∀ f : Field, f.rules.keys.Nodup → f.rule .type = .string type →
                f.calls = [validatorName m.name ++ "(data." ++ f.name ++ ")"])
            ∧ ∀ d ∈ s.check.dangling, d.target ≠ type := by
  refine ⟨capitalize_capitalize, fun _ _ => validatorName_eq_iff,
    fun s m type hm hnamed hfilled htype => ?_⟩
  have hfunction : validatorName type = validatorName m.name := by
    rcases hnamed with rfl | rfl
    · rfl
    · exact validatorName_eq_iff.mpr (capitalize_capitalize m.name)
  refine ⟨Model.declares_iff.mpr hfunction, fun f hdistinct hrule => ?_, fun d hd => ?_⟩
  · rw [Field.calls_eq, Field.targets_eq hdistinct, hrule, Json.reference?_string hfilled htype,
      Option.toList_some, List.map_singleton, hfunction]
  · refine Schema.target_ne_of_mem_dangling ?_ hd
    rw [hfunction]
    exact List.mem_map_of_mem hm

/-- A name that becomes longer, and whose first character is no letter then. -/
theorem capitalize_stable_longer :
    let m : Model := { name := "ŉ", fields := [{ name := "f", rules := [("type", .string "ʼN")] }] }
    capitalize m.name = "ʼN"
      ∧ m.Declares (validatorName "ʼN")
      ∧ m.fields.flatMap Field.calls = [Text.ofString "validateʼNModel(data.f)"]
      ∧ ∀ d ∈ (Schema.check [m]).dangling, d.target ≠ "ʼN" := by
  intro m
  have hname : capitalize m.name = "ʼN" := by decide +kernel
  obtain ⟨hdeclares, hcalls, hdangling⟩ := capitalize_stable.2.2 [m] m "ʼN" List.mem_cons_self
    (Or.inr hname.symm) (by decide) (by decide)
  have hcalled := hcalls { name := "f", rules := [("type", .string "ʼN")] } (by decide) rfl
  refine ⟨hname, hdeclares, ?_, hdangling⟩
  rw [List.flatMap_singleton, hcalled]
  decide +kernel

end SecurityRules
