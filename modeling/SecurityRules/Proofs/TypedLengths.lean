import Mathlib.Data.List.TakeWhile
import Mathlib.Data.Nat.Digits.Defs
import SecurityRules.Proofs.FlattenedSchema
import SecurityRules.Ruleset.Clause

/-!
# Lengths typed into a text box

The least and the greatest length of a field may be given as texts. Which texts
are integers, and which integers they are, is said here by a grammar:
`Text.Denotes` allows blanks around a sign and digits, digits of any script, and
single underscores between digits. The reader does not follow the grammar. It
goes through the text once, remembers what stood before the place it is at, and
asks for the number of digits before it asks for what follows them.

`Text.trim_toInteger_eq_ok_iff` says that both agree. What a field makes of such a
text, and that the decimal text of an integer is as good as the integer, follows.
-/

namespace SecurityRules

/-! ## Digits -/

/-- A digit of some script with its value: so many places behind the zero of its
script. -/
def CodePoint.IsDigit (c : CodePoint) (d : Nat) : Prop :=
  d < 10 ∧ ∃ origin ∈ digitZeros, c.toNat = origin + d

theorem digitZeros_apart :
    ∀ a ∈ digitZeros, ∀ b ∈ digitZeros, a = b ∨ a + 10 ≤ b ∨ b + 10 ≤ a := by
  decide +kernel

theorem digitZeros_blankRanges :
    ∀ origin ∈ digitZeros, ∀ range ∈ blankRanges,
      range.2 < origin ∨ origin + 10 ≤ range.1 := by
  decide +kernel

namespace CodePoint

variable {c : CodePoint} {d : Nat}

theorem digit?_eq_some_iff : c.digit? = some d ↔ c.IsDigit d := by
  constructor
  · intro h
    obtain ⟨origin, hfind, rfl⟩ := Option.map_eq_some_iff.mp h
    have hrange := List.find?_some hfind
    simp only [Bool.and_eq_true, decide_eq_true_eq] at hrange
    exact ⟨by omega, origin, List.mem_of_find?_eq_some hfind, by omega⟩
  · rintro ⟨hd, origin, horigin, heq⟩
    rw [digit?]
    cases hfind : digitZeros.find? fun start => start ≤ c.toNat && c.toNat < start + 10 with
    | none =>
        have hnone := List.find?_eq_none.mp hfind origin horigin
        simp only [Bool.and_eq_true, decide_eq_true_eq] at hnone
        omega
    | some start =>
        -- the ten places of a zero are its own, so no other zero was found before it
        have hrange := List.find?_some hfind
        simp only [Bool.and_eq_true, decide_eq_true_eq] at hrange
        have hapart := digitZeros_apart start (List.mem_of_find?_eq_some hfind)
          origin horigin
        rw [Option.map_some, Option.some.injEq]
        omega

theorem IsDigit.isBlank_eq (h : c.IsDigit d) : c.isBlank = false := by
  obtain ⟨hd, origin, horigin, heq⟩ := h
  rw [isBlank, within, List.any_eq_false]
  intro range hrange
  have hapart := digitZeros_blankRanges origin horigin range hrange
  simp only [Bool.and_eq_true, decide_eq_true_eq]
  omega

/-- The digits of a decimal text. -/
theorem isDigit_scalar {c : Char} (h : c.isDigit) :
    (CodePoint.scalar c).IsDigit (c.toNat - '0'.toNat) := by
  simp only [Char.isDigit, Bool.and_eq_true, decide_eq_true_eq] at h
  have hlow : 48 ≤ c.toNat := h.1
  have hhigh : c.toNat ≤ 57 := h.2
  have hzero : '0'.toNat = 48 := rfl
  refine ⟨by omega, 48, by decide, ?_⟩
  show c.toNat = 48 + (c.toNat - '0'.toNat)
  omega

end CodePoint

/-- Digits in a row, with one underscore at most between neighbours, and their
values. -/
inductive DigitRun : Text → List Nat → Prop
  | last {c : CodePoint} {d : Nat} (h : c.IsDigit d) : DigitRun [c] [d]
  | next {c : CodePoint} {d : Nat} {t : Text} {digits : List Nat} (h : c.IsDigit d)
      (hrest : DigitRun t digits) : DigitRun (c :: t) (d :: digits)
  | underscore {c : CodePoint} {d : Nat} {t : Text} {digits : List Nat} (h : c.IsDigit d)
      (hrest : DigitRun t digits) : DigitRun (c :: .scalar '_' :: t) (d :: digits)

namespace DigitRun

variable {t : Text} {digits : List Nat}

theorem exists_cons (h : DigitRun t digits) : ∃ c d rest, t = c :: rest ∧ c.IsDigit d := by
  cases h with
  | last h => exact ⟨_, _, _, rfl, h⟩
  | next h _ => exact ⟨_, _, _, rfl, h⟩
  | underscore h _ => exact ⟨_, _, _, rfl, h⟩

theorem exists_concat (h : DigitRun t digits) : ∃ c d front, t = front ++ [c] ∧ c.IsDigit d := by
  induction h with
  | last h => exact ⟨_, _, [], rfl, h⟩
  | next h hrest ih =>
      obtain ⟨c, d, front, rfl, hc⟩ := ih
      exact ⟨c, d, _ :: front, rfl, hc⟩
  | underscore h hrest ih =>
      obtain ⟨c, d, front, rfl, hc⟩ := ih
      exact ⟨c, d, _ :: _ :: front, rfl, hc⟩

theorem ne_nil (h : DigitRun t digits) : digits ≠ [] := by
  cases h with
  | last _ | next _ _ | underscore _ _ => exact List.cons_ne_nil _ _

/-- A run is read to its end, whatever stood before it. -/
theorem digitGroups?_eq (h : DigitRun t digits) (before : DigitNeighbour) :
    digitGroups? before t = some (digits, []) := by
  induction h generalizing before with
  | last h => simp [digitGroups?, CodePoint.digit?_eq_some_iff.mpr h]
  | next h hrest ih => simp [digitGroups?, CodePoint.digit?_eq_some_iff.mpr h, ih]
  | underscore h hrest ih =>
      have hunderscore : (CodePoint.scalar '_').digit? = none := by decide +kernel
      simp [digitGroups?, CodePoint.digit?_eq_some_iff.mpr h, hunderscore, ih]

theorem ofChars {cs : List Char} (h : IsDigits cs) :
    DigitRun (Text.ofChars cs) (cs.map fun c => c.toNat - '0'.toNat) := by
  obtain ⟨hne, hdigits⟩ := h
  induction cs with
  | nil => exact absurd rfl hne
  | cons c cs ih =>
      have hc := CodePoint.isDigit_scalar (hdigits c (by simp))
      cases cs with
      | nil => exact .last hc
      | cons d cs => exact .next hc (ih (by simp) fun e he => hdigits e (by simp [he]))

end DigitRun

/-- What is read to its end is a run, or there is nothing left of it: no text at
all, or behind a digit an underscore and a run. -/
theorem digitRun_of_digitGroups? {before : DigitNeighbour} {t : Text} {digits : List Nat}
    (h : digitGroups? before t = some (digits, [])) :
    DigitRun t digits ∨ t = [] ∧ digits = [] ∧ before ≠ .underscore
      ∨ before = .digit ∧ ∃ rest, t = .scalar '_' :: rest ∧ DigitRun rest digits := by
  fun_induction digitGroups? before t generalizing digits with
  | case1 => cases h
  | case2 before hbefore =>
      cases h
      exact Or.inr (Or.inl ⟨rfl, rfl, hbefore⟩)
  | case3 before c rest d hd ih =>
      obtain ⟨⟨more, after⟩, hmore, heq⟩ := Option.map_eq_some_iff.mp h
      cases heq
      have hc := CodePoint.digit?_eq_some_iff.mp hd
      rcases ih hmore with hrun | ⟨rfl, rfl, -⟩ | ⟨-, behind, rfl, hrun⟩
      · exact Or.inl (.next hc hrun)
      · exact Or.inl (.last hc)
      · exact Or.inl (.underscore hc hrun)
  | case4 rest hnone ih =>
      rcases ih h with hrun | ⟨-, -, hne⟩ | ⟨heq, -⟩
      · exact Or.inr (Or.inr ⟨rfl, rest, rfl, hrun⟩)
      · exact absurd rfl hne
      · cases heq
  | case5 => cases h
  | case6 => cases h
  | case7 => cases h

theorem ofDigitValues_eq (digits : List Nat) :
    ofDigitValues digits = Nat.ofDigits 10 digits.reverse := by
  rw [Nat.ofDigits_eq_foldr, List.foldr_reverse, ofDigitValues]
  congr 1
  funext n d
  simp only [Nat.cast_id]
  omega

/-! ## Integers -/

namespace Text

/-- An integer as it is spelled: a sign or none, and up to 4300 digits. -/
inductive SpellsInteger : Text → Int → Prop
  | unsigned {t : Text} {digits : List Nat} (h : DigitRun t digits)
      (hcount : digits.length ≤ 4300) : SpellsInteger t (Nat.ofDigits 10 digits.reverse : Nat)
  | plus {t : Text} {digits : List Nat} (h : DigitRun t digits)
      (hcount : digits.length ≤ 4300) :
      SpellsInteger (.scalar '+' :: t) (Nat.ofDigits 10 digits.reverse : Nat)
  | minus {t : Text} {digits : List Nat} (h : DigitRun t digits)
      (hcount : digits.length ≤ 4300) :
      SpellsInteger (.scalar '-' :: t) (-(Nat.ofDigits 10 digits.reverse : Nat))

/-- A text box holds an integer, with any blanks around it. -/
def Denotes (t : Text) (n : Int) : Prop :=
  ∃ before core after, t = before ++ core ++ after ∧ (∀ c ∈ before, c.isBlank)
    ∧ (∀ c ∈ after, c.isBlank) ∧ core.SpellsInteger n

variable {t : Text} {n : Int}

theorem splitSign_of_digitRun {digits : List Nat} (h : DigitRun t digits) :
    splitSign t = (false, t) := by
  obtain ⟨c, d, rest, rfl, hc⟩ := h.exists_cons
  have hdigit := CodePoint.digit?_eq_some_iff.mpr hc
  unfold splitSign
  split
  · next heq =>
      cases heq
      have hminus : (CodePoint.scalar '-').digit? = none := by decide +kernel
      rw [hminus] at hdigit
      cases hdigit
  · next heq =>
      cases heq
      have hplus : (CodePoint.scalar '+').digit? = none := by decide +kernel
      rw [hplus] at hdigit
      cases hdigit
  · rfl

theorem spellsInteger_iff :
    t.SpellsInteger n ↔ ∃ digits, DigitRun (splitSign t).2 digits ∧ digits.length ≤ 4300
      ∧ n = signed (splitSign t).1 (Nat.ofDigits 10 digits.reverse) := by
  constructor
  · rintro (⟨h, hcount⟩ | ⟨h, hcount⟩ | ⟨h, hcount⟩)
    · rw [splitSign_of_digitRun h]
      exact ⟨_, h, hcount, rfl⟩
    · exact ⟨_, h, hcount, rfl⟩
    · exact ⟨_, h, hcount, rfl⟩
  · rintro ⟨digits, h, hcount, rfl⟩
    unfold splitSign at h ⊢
    split at h
    · exact .minus h hcount
    · exact .plus h hcount
    · exact .unsigned h hcount

/-- The reader takes exactly the integers that the grammar spells. -/
theorem toInteger_eq_ok_iff : t.toInteger = .ok n ↔ t.SpellsInteger n := by
  rw [spellsInteger_iff, toInteger]
  simp only
  constructor
  · intro h
    split at h
    · cases h
    · next digits rest hgroups =>
        split at h
        · cases h
        · next hcount =>
            split at h
            · cases h
            · next hwhole =>
                obtain ⟨hne, rfl⟩ : digits ≠ [] ∧ rest = [] := by simpa using hwhole
                cases h
                rw [ofDigitValues_eq]
                rcases digitRun_of_digitGroups? hgroups with hrun | ⟨-, hnil, -⟩ | ⟨heq, -⟩
                · exact ⟨digits, hrun, Nat.not_lt.mp hcount, rfl⟩
                · exact absurd hnil hne
                · cases heq
  · rintro ⟨digits, hrun, hcount, rfl⟩
    have hlength : ¬ maxIntegerDigits < digits.length := Nat.not_lt.mpr hcount
    simp only [hrun.digitGroups?_eq]
    rw [if_neg hlength, if_neg (by simp [hrun.ne_nil]), ofDigitValues_eq]

/-! ## Blanks at the ends -/

theorem exists_of_trim (t : Text) :
    ∃ before after, t = before ++ t.trim ++ after ∧ (∀ c ∈ before, c.isBlank)
      ∧ ∀ c ∈ after, c.isBlank := by
  have hback := (t.dropWhile CodePoint.isBlank).reverse.takeWhile_append_dropWhile
    (p := CodePoint.isBlank)
  refine ⟨t.takeWhile CodePoint.isBlank,
    ((t.dropWhile CodePoint.isBlank).reverse.takeWhile CodePoint.isBlank).reverse, ?_,
    fun c hc => List.mem_takeWhile_imp hc,
    fun c hc => List.mem_takeWhile_imp (List.mem_reverse.mp hc)⟩
  rw [trim, trimEnd, List.append_assoc, ← List.reverse_append, hback, List.reverse_reverse,
    List.takeWhile_append_dropWhile]

/-- Blanks are taken away up to the first and the last code point that is none. -/
theorem trim_append {before core after : Text} (hbefore : ∀ c ∈ before, c.isBlank)
    (hafter : ∀ c ∈ after, c.isBlank) (hfirst : ∃ c rest, core = c :: rest ∧ c.isBlank = false)
    (hlast : ∃ c front, core = front ++ [c] ∧ c.isBlank = false) :
    (before ++ core ++ after).trim = core := by
  have hfront : (before ++ core ++ after).dropWhile CodePoint.isBlank = core ++ after := by
    obtain ⟨c, rest, rfl, hc⟩ := hfirst
    rw [List.append_assoc, List.dropWhile_append_of_pos hbefore, List.cons_append,
      List.dropWhile_cons_of_neg (by simp [hc])]
  obtain ⟨c, front, rfl, hc⟩ := hlast
  rw [trim, hfront, trimEnd, List.reverse_append,
    List.dropWhile_append_of_pos fun c hc => hafter c (List.mem_reverse.mp hc),
    List.reverse_append, List.reverse_singleton, List.singleton_append,
    List.dropWhile_cons_of_neg (by simp [hc]), List.reverse_cons, List.reverse_reverse]

theorem SpellsInteger.ends (h : t.SpellsInteger n) :
    (∃ c rest, t = c :: rest ∧ c.isBlank = false)
      ∧ ∃ c front, t = front ++ [c] ∧ c.isBlank = false := by
  have hsign : (CodePoint.scalar '+').isBlank = false ∧ (CodePoint.scalar '-').isBlank = false := by
    decide
  cases h with
  | unsigned h _ =>
      obtain ⟨c, d, rest, hcons, hc⟩ := h.exists_cons
      obtain ⟨c', d', front, hconcat, hc'⟩ := h.exists_concat
      exact ⟨⟨c, rest, hcons, hc.isBlank_eq⟩, c', front, hconcat, hc'.isBlank_eq⟩
  | plus h _ =>
      obtain ⟨c', d', front, rfl, hc'⟩ := h.exists_concat
      exact ⟨⟨_, _, rfl, hsign.1⟩, c', _ :: front, rfl, hc'.isBlank_eq⟩
  | minus h _ =>
      obtain ⟨c', d', front, rfl, hc'⟩ := h.exists_concat
      exact ⟨⟨_, _, rfl, hsign.2⟩, c', _ :: front, rfl, hc'.isBlank_eq⟩

theorem trim_toInteger_eq_ok_iff : t.trim.toInteger = .ok n ↔ t.Denotes n := by
  rw [toInteger_eq_ok_iff]
  constructor
  · intro h
    obtain ⟨before, after, heq, hbefore, hafter⟩ := t.exists_of_trim
    exact ⟨before, t.trim, after, heq, hbefore, hafter, h⟩
  · rintro ⟨before, core, after, rfl, hbefore, hafter, h⟩
    rw [trim_append hbefore hafter h.ends.1 h.ends.2]
    exact h

theorem Denotes.ne_nil (h : t.Denotes n) : t ≠ [] := by
  obtain ⟨before, core, after, rfl, -, -, hspells⟩ := h
  obtain ⟨⟨c, rest, rfl, -⟩, -⟩ := hspells.ends
  simp

theorem not_denotes_of_blank (h : ∀ c ∈ t, c.isBlank) : ¬ t.Denotes n := by
  rintro ⟨before, core, after, rfl, -, -, hspells⟩
  obtain ⟨⟨c, rest, rfl, hc⟩, -⟩ := hspells.ends
  have hblank := h c (by simp)
  rw [hc] at hblank
  cases hblank

/-! ## Decimal texts -/

theorem spellsInteger_ofInt (h : (Nat.toDigits 10 n.natAbs).length ≤ 4300) :
    (Text.ofInt n).SpellsInteger n := by
  have hrun := DigitRun.ofChars (isDigits_toDigits n.natAbs)
  have hvalue : Nat.ofDigits 10
      ((Nat.toDigits 10 n.natAbs).map fun c => c.toNat - '0'.toNat).reverse = n.natAbs := by
    rw [← ofDigitValues_eq, ofDigitValues, List.foldl_map]
    refine Eq.trans ?_ (naturalOf_toDigits n.natAbs)
    rw [naturalOf, Nat.ofDigitChars]
    congr 1
    funext k c
    omega
  unfold Text.ofInt
  split
  · next hneg =>
      have hspells := SpellsInteger.minus hrun (by simpa using h)
      have hsigned : -(n.natAbs : Int) = n := by omega
      rwa [hvalue, hsigned] at hspells
  · next hneg =>
      have hspells := SpellsInteger.unsigned hrun (by simpa using h)
      have hsigned : (n.natAbs : Int) = n := by omega
      rwa [hvalue, hsigned] at hspells

end Text

/-! ## Fields -/

open Outline

/-- The rejection of a field for one of its rules. -/
def ruleRejection (fault : RuleFault) : Rejection :=
  ⟨.field, [⟨[.key "rules"], .rule fault⟩]⟩

/-- A field object with a rule of a kind among others. -/
def fieldWith (name : Text) (before : Record Json) (kind : Kind) (v : Json) (after : Record Json) :
    Json :=
  persistedField (name, before ++ (kind.key, v) :: after)

/-- A field object with a name gives a field exactly if its rules have normal forms. -/
theorem Field.ofJson_persistedField (name : Text) (rules : Record Json) :
    Field.ofJson (persistedField (name, rules))
      = ((normalRules rules).map (Field.mk name)).mapError ruleRejection := by
  -- the look-ups under the two keys compute
  show (Validated.seq (.valid (Field.mk name))
    ((decodeRules (.object rules)).under (.key "rules"))).result .field = _
  rw [decodeRules]
  cases normalRules rules <;> rfl

section

variable {kind : Kind} (hkind : kind = .minLength ∨ kind = .maxLength)

include hkind

theorem normalValue_lengthText {s : Text} (hs : s ≠ []) :
    normalValue kind.key (.string s)
      = (s.trim.toInteger.map Json.int).mapError RuleFault.notInteger := by
  obtain ⟨c, rest, rfl⟩ := List.exists_cons_of_ne_nil hs
  have hlength : kind.isLength := by rcases hkind with rfl | rfl <;> rfl
  have hadmits : ∀ n, kind.admits (.int n) := by rcases hkind with rfl | rfl <;> exact fun _ => rfl
  unfold normalValue
  rw [Kind.ofKey?_eq_some_iff.mpr rfl]
  simp only
  rw [Kind.ofInput, if_pos hlength]
  cases Text.toInteger (Text.trim (c :: rest)) with
  | error fault => rfl
  | ok n => exact Kind.demand_eq_ok_iff.mpr ⟨rfl, Or.inr (hadmits n)⟩

theorem normalValue_lengthInt (n : Int) : normalValue kind.key (.int n) = .ok (.int n) := by
  rcases hkind with rfl | rfl <;> rfl

theorem normalValue_lengthText_eq_ok_iff {s : Text} (hs : s ≠ []) {w : Json} :
    normalValue kind.key (.string s) = .ok w ↔ ∃ n, w = .int n ∧ s.Denotes n := by
  rw [normalValue_lengthText hkind hs]
  simp only [← Text.trim_toInteger_eq_ok_iff]
  cases s.trim.toInteger <;> simp [Except.map, Except.mapError, eq_comm]

theorem exists_of_not_denotes {s : Text} (hs : s ≠ []) (h : ∀ n, ¬ s.Denotes n) :
    ∃ fault, normalValue kind.key (.string s) = .error (.notInteger fault) := by
  rw [normalValue_lengthText hkind hs]
  cases hread : s.trim.toInteger with
  | error fault => exact ⟨fault, rfl⟩
  | ok n => exact absurd (Text.trim_toInteger_eq_ok_iff.mp hread) (h n)

/-- The clause of a length that is not zero. -/
theorem exists_lengthClause {f : Field} {n : Int} (hn : n ≠ 0) (h : (kind.key, .int n) ∈ f.rules) :
    ∃ clause, kind.clause? f.name (Text.ofInt n) = some clause ∧ clause ∈ f.clauses := by
  have hblank : (Json.int n).isBlank = false := by simpa [Json.isBlank] using hn
  have hclause : ∀ clause, kind.clause? f.name (Text.ofInt n) = some clause →
      clause ∈ f.clauses := by
    intro clause hclause
    rw [Field.clauses, Field.constraints, List.mem_filterMap]
    refine ⟨(kind, .int n), List.mem_filterMap.mpr ⟨_, h, ?_⟩, ?_⟩
    · simp [Kind.ofKey?_eq_some_iff.mpr rfl]
    · simp only [Field.clause?, hblank]
      rcases hkind with rfl | rfl <;> exact hclause
  rcases hkind with rfl | rfl <;> exact ⟨_, rfl, hclause _ rfl⟩

variable (name : Text) {before after normalBefore normalAfter : Record Json}
  (hbefore : normalRules before = .ok normalBefore) (hafter : normalRules after = .ok normalAfter)

include hbefore hafter

omit hkind in
theorem Field.ofJson_fieldWith (v : Json) :
    Field.ofJson (fieldWith name before kind v after)
      = ((normalValue kind.key v).map fun w =>
          ⟨name, normalBefore ++ (kind.key, w) :: normalAfter⟩).mapError ruleRejection := by
  rw [fieldWith, Field.ofJson_persistedField, normalRules_between hbefore hafter]
  cases normalValue kind.key v <;> rfl

omit hkind in
theorem Field.ofJson_fieldWith_eq_ok_iff {v w : Json} :
    Field.ofJson (fieldWith name before kind v after)
        = .ok ⟨name, normalBefore ++ (kind.key, w) :: normalAfter⟩
      ↔ normalValue kind.key v = .ok w := by
  rw [Field.ofJson_fieldWith name hbefore hafter]
  cases normalValue kind.key v <;> simp [Except.map, Except.mapError]

/-- A length that is typed in is stored as the integer that it denotes, and refused if it
denotes none, as one of blanks only does. The decimal text of an integer, with any blanks
around it, gives the same field as the integer, with the same clause. -/
theorem Field.ofJson_typedLength :
    (∀ v : Text, v ≠ [] → ∀ n : Int,
        Field.ofJson (fieldWith name before kind (.string v) after)
            = .ok ⟨name, normalBefore ++ (kind.key, .int n) :: normalAfter⟩
          ↔ v.Denotes n)
      ∧ (∀ v : Text, v ≠ [] → ((∀ n, ¬ v.Denotes n) ∨ ∀ c ∈ v, c.isBlank) →
          ∃ fault, Field.ofJson (fieldWith name before kind (.string v) after)
            = .error (ruleRejection (.notInteger fault)))
      ∧ ∀ n : Int, (Nat.toDigits 10 n.natAbs).length ≤ 4300 →
          ∀ lead trail : Text, (∀ c ∈ lead, c.isBlank) → (∀ c ∈ trail, c.isBlank) →
          ∃ f : Field, f.rules = normalBefore ++ (kind.key, .int n) :: normalAfter
            ∧ Field.ofJson (fieldWith name before kind
                (.string (lead ++ Text.ofInt n ++ trail)) after) = .ok f
            ∧ Field.ofJson (fieldWith name before kind (.int n) after) = .ok f
            ∧ (n ≠ 0 → ∃ clause, kind.clause? name (Text.ofInt n) = some clause
                ∧ clause ∈ f.clauses) := by
  refine ⟨fun v hv n => ?_, fun v hv hrefused => ?_, fun n hcount lead trail hlead htrail => ?_⟩
  · rw [Field.ofJson_fieldWith_eq_ok_iff name hbefore hafter,
      normalValue_lengthText_eq_ok_iff hkind hv]
    simp
  · have hnone : ∀ n, ¬ v.Denotes n := by
      rcases hrefused with hnone | hblank
      · exact hnone
      · exact fun n => Text.not_denotes_of_blank hblank
    obtain ⟨fault, hfault⟩ := exists_of_not_denotes hkind hv hnone
    rw [Field.ofJson_fieldWith name hbefore hafter, hfault]
    exact ⟨fault, rfl⟩
  · have hdenotes : (lead ++ Text.ofInt n ++ trail).Denotes n :=
      ⟨lead, Text.ofInt n, trail, rfl, hlead, htrail, Text.spellsInteger_ofInt hcount⟩
    refine ⟨⟨name, normalBefore ++ (kind.key, .int n) :: normalAfter⟩, rfl, ?_, ?_, fun hn => ?_⟩
    · rw [Field.ofJson_fieldWith_eq_ok_iff name hbefore hafter]
      exact (normalValue_lengthText_eq_ok_iff hkind hdenotes.ne_nil).mpr ⟨n, rfl, hdenotes⟩
    · rw [Field.ofJson_fieldWith_eq_ok_iff name hbefore hafter]
      exact normalValue_lengthInt hkind n
    · have hmem : (kind.key, .int n) ∈ normalBefore ++ (kind.key, .int n) :: normalAfter :=
        List.mem_append_right _ List.mem_cons_self
      exact exists_lengthClause hkind (f := ⟨name, _⟩) hn hmem

end

/-- Digits of two scripts with a sign, an underscore and blanks around them, a doubled
underscore, and a negative number as it is written. -/
theorem Field.ofJson_typedLength_mixedScripts :
    Field.ofJson (fieldWith "f" [("type", .string "string")] .maxLength (.string " +1_٢\u3000") [])
        = .ok ⟨"f", [("type", .string "string"), ("maxLength", .int 12)]⟩
      ∧ (∃ fault, Field.ofJson (fieldWith "f" [] .minLength (.string "1__2") [])
          = .error (ruleRejection (.notInteger fault)))
      ∧ ∃ f : Field, Field.ofJson (fieldWith "f" [] .minLength (.string "\t-7") []) = .ok f
          ∧ Field.ofJson (fieldWith "f" [] .minLength (.int (-7)) []) = .ok f := by
  have hnone : normalRules [] = .ok [] := rfl
  have htype : normalRules [("type", .string "string")] = .ok [("type", .string "string")] := rfl
  have hdigits : (CodePoint.scalar '1').IsDigit 1 ∧ (CodePoint.scalar '٢').IsDigit 2 := by
    simp only [← CodePoint.digit?_eq_some_iff]
    decide +kernel
  have htwelve : Text.Denotes " +1_٢\u3000" 12 :=
    ⟨" ", "+1_٢", "\u3000", rfl, by decide, by decide,
      .plus (.underscore hdigits.1 (.last hdigits.2)) (by decide)⟩
  have hdoubled : ∀ n, ¬ Text.Denotes "1__2" n := by
    intro n hn
    have hread := Text.trim_toInteger_eq_ok_iff.mpr hn
    have hrefused : Text.toInteger (Text.trim "1__2") = .error (.notInteger "1__2") := by
      decide +kernel
    rw [hrefused] at hread
    cases hread
  refine ⟨?_, ?_, ?_⟩
  · exact ((Field.ofJson_typedLength (Or.inr rfl) "f" htype hnone).1 _ (by decide) 12).mpr htwelve
  · exact (Field.ofJson_typedLength (Or.inl rfl) "f" hnone hnone).2.1 _ (by decide)
      (Or.inl hdoubled)
  · obtain ⟨f, -, htext, hint, -⟩ := (Field.ofJson_typedLength (Or.inl rfl) "f" hnone hnone).2.2
      (-7) (by decide) "\t" [] (by decide) (by decide)
    exact ⟨f, htext, hint⟩

end SecurityRules
