import Mathlib.Data.List.Basic
import Mathlib.Tactic.IntervalCases
import SecurityRules.Decimal.Numeral

/-!
# A spelled numeral is read back

`Numeral.scan?` takes the longest numeral off the front of a text. This file
sets a printer beside it: `spelling` writes a numeral out, with a sign in front
of its exponent, and `scan?_spelling` reads the same numeral back, whatever
comes after it as long as the numeral could not have gone on there.

Every number that a document is written with has such a spelling. For integers
that is shown here; the binary64 numbers need the theory of their shortest
decimals first.
-/

namespace SecurityRules

/-! ## Digits at the front of a text -/

namespace Text

/-- A text that does not start with a digit. -/
def NoDigitAhead (t : Text) : Prop :=
  ∀ c, t.head? = some (.scalar c) → c.isDigit = false

/-- A text that a numeral before it cannot run on into. -/
def EndsNumeral (t : Text) : Prop :=
  ∀ c, t.head? = some (.scalar c) → c.isDigit = false ∧ c ∉ ['.', 'e', 'E']

theorem EndsNumeral.noDigitAhead {t : Text} (h : t.EndsNumeral) : t.NoDigitAhead :=
  fun c hc => (h c hc).1

theorem spanDigits_of_noDigit {t : Text} (h : t.NoDigitAhead) : t.spanDigits = ([], t) := by
  unfold spanDigits
  split
  · next c rest =>
      have := h c rfl
      rw [if_neg (by simp [this])]
  · rfl

theorem spanDigits_append {cs : List Char} (hcs : ∀ c ∈ cs, c.isDigit) {rest : Text}
    (hrest : rest.NoDigitAhead) : spanDigits (ofChars cs ++ rest) = (cs, rest) := by
  induction cs with
  | nil => exact spanDigits_of_noDigit hrest
  | cons c cs ih =>
      have hc : c.isDigit = true := hcs c (by simp)
      have := ih fun d hd => hcs d (by simp [hd])
      simp only [ofChars, List.map_cons, List.cons_append] at this ⊢
      rw [spanDigits, if_pos hc, this]

theorem isDigit_of_mem_spanDigits {t : Text} {c : Char} (h : c ∈ t.spanDigits.1) :
    c.isDigit := by
  fun_induction spanDigits t with
  | case1 d rest hdigit digits after hspan ih =>
      rw [hspan] at ih
      rcases List.mem_cons.mp h with rfl | hmem
      · exact hdigit
      · exact ih hmem
  | case2 d rest hdigit => simp at h
  | case3 t => simp at h

end Text

/-! ## The number that digits spell -/

/-- Digits, and at least one of them. -/
def IsDigits (cs : List Char) : Prop :=
  cs ≠ [] ∧ ∀ c ∈ cs, c.isDigit

theorem isDigits_toDigits (n : Nat) : IsDigits (Nat.toDigits 10 n) :=
  ⟨Nat.toDigits_ne_nil, fun _ hc => Nat.isDigit_of_mem_toDigits (by decide) (by decide) hc⟩

theorem IsDigits.append_zeros {cs : List Char} (h : IsDigits cs) (k : Nat) :
    IsDigits (cs ++ List.replicate k '0') := by
  refine ⟨by simp [h.1], fun c hc => ?_⟩
  rcases List.mem_append.mp hc with hc | hc
  · exact h.2 c hc
  · rw [List.eq_of_mem_replicate hc]
    rfl

theorem IsDigits.zeros_append {cs : List Char} (h : IsDigits cs) (k : Nat) :
    IsDigits (List.replicate k '0' ++ cs) := by
  refine ⟨by simp [h.1], fun c hc => ?_⟩
  rcases List.mem_append.mp hc with hc | hc
  · rw [List.eq_of_mem_replicate hc]
    rfl
  · exact h.2 c hc

theorem head?_toDigits_ne_zero {n : Nat} (h : n ≠ 0) : (Nat.toDigits 10 n).head? ≠ some '0' := by
  induction n using Nat.strongRecOn with
  | _ n ih =>
      rcases Nat.lt_or_ge n 10 with hlt | hge
      · rw [Nat.toDigits_of_lt_base hlt]
        interval_cases n <;> first | exact absurd rfl h | decide
      · rw [Nat.toDigits_of_base_le (by decide) hge,
          List.head?_append_of_ne_nil _ Nat.toDigits_ne_nil]
        exact ih (n / 10) (by omega) (by omega)

theorem naturalOf_append (cs ds : List Char) :
    naturalOf (cs ++ ds) = naturalOf cs * 10 ^ ds.length + naturalOf ds := by
  unfold naturalOf
  rw [Nat.ofDigitChars_append, Nat.ofDigitChars_eq_ofDigitChars_zero, Nat.mul_comm]

theorem naturalOf_zeros (k : Nat) : naturalOf (List.replicate k '0') = 0 := by
  simp [naturalOf, Nat.ofDigitChars_replicate_zero]

theorem naturalOf_zero : naturalOf ['0'] = 0 :=
  naturalOf_zeros 1

theorem naturalOf_toDigits (n : Nat) : naturalOf (Nat.toDigits 10 n) = n :=
  Nat.ofDigitChars_ten_toDigits

theorem natAbs_signed (negative : Bool) (n : Nat) : (signed negative n).natAbs = n := by
  unfold signed
  split <;> omega

theorem naturalOf_lt {cs : List Char} (h : ∀ c ∈ cs, c.isDigit) :
    naturalOf cs < 10 ^ cs.length := by
  induction cs with
  | nil => simp [naturalOf]
  | cons c cs ih =>
      have htail := ih fun d hd => h d (by simp [hd])
      have hc : naturalOf [c] < 10 := by
        have hdigit : c.isDigit = true := h c (by simp)
        simp only [Char.isDigit, Bool.and_eq_true, decide_eq_true_eq] at hdigit
        have h9 : c.toNat ≤ 57 := hdigit.2
        simp [naturalOf, Nat.ofDigitChars_cons]
        omega
      have hle : naturalOf [c] * 10 ^ cs.length ≤ 9 * 10 ^ cs.length :=
        Nat.mul_le_mul_right _ (by omega)
      rw [show c :: cs = [c] ++ cs from rfl, naturalOf_append, List.length_append, Nat.pow_add]
      simp only [List.length_singleton, pow_one]
      omega

/-! ## Spelling a numeral -/

/-- The sign in front of a number. -/
def signText (negative : Bool) : Text :=
  if negative then "-" else ""

namespace Numeral

def fractionSpelling : Option (List Char) → Text
  | none => []
  | some digits => .scalar '.' :: Text.ofChars digits

def exponentSpelling : Option (Bool × List Char) → Text
  | none => []
  | some (negative, digits) =>
      .scalar 'e' :: .scalar (if negative then '-' else '+') :: Text.ofChars digits

/-- A numeral written out, with a sign in front of its exponent. -/
def spelling (n : Numeral) : Text :=
  signText n.negative ++ (Text.ofChars n.whole
    ++ (fractionSpelling n.fraction ++ exponentSpelling n.exponent))

/-- What the parts of a numeral have to look like for its spelling to be read
back: no zero in front of other digits, and digits wherever they are announced. -/
structure WellSpelled (n : Numeral) : Prop where
  whole : IsDigits n.whole
  lead : n.whole = ['0'] ∨ n.whole.head? ≠ some '0'
  fraction : ∀ digits ∈ n.fraction, IsDigits digits
  exponent : ∀ power ∈ n.exponent, IsDigits power.2

theorem scanWhole?_ofChars {cs : List Char} (hcs : IsDigits cs)
    (hlead : cs = ['0'] ∨ cs.head? ≠ some '0') {rest : Text} (hrest : rest.NoDigitAhead) :
    scanWhole? (Text.ofChars cs ++ rest) = some (cs, rest) := by
  have hspan := Text.spanDigits_append hcs.2 hrest
  rcases hlead with rfl | hlead
  · rfl
  · cases cs with
    | nil => exact absurd rfl hcs.1
    | cons c cs =>
        unfold scanWhole?
        split
        · next heq =>
            simp only [Text.ofChars, List.map_cons, List.cons_append, List.cons.injEq,
              CodePoint.scalar.injEq] at heq
            simp [heq.1] at hlead
        · rw [hspan]

theorem scanFraction_spelling {fraction : Option (List Char)}
    (h : ∀ digits ∈ fraction, IsDigits digits) {rest : Text} (hrest : rest.NoDigitAhead)
    (hpoint : rest.head? ≠ some (.scalar '.')) :
    scanFraction (fractionSpelling fraction ++ rest) = (fraction, rest) := by
  cases fraction with
  | none =>
      unfold scanFraction
      split
      · next heq =>
          simp only [fractionSpelling, List.nil_append] at heq
          simp [heq] at hpoint
      · rfl
  | some digits =>
      obtain ⟨hne, hdigits⟩ := h digits rfl
      simp only [fractionSpelling, List.cons_append, scanFraction]
      rw [Text.spanDigits_append hdigits hrest]
      cases digits with
      | nil => exact absurd rfl hne
      | cons c cs => rfl

theorem scanSign_sign (negative : Bool) (rest : Text) :
    scanSign (.scalar (if negative then '-' else '+') :: rest) = (negative, rest) := by
  cases negative <;> rfl

theorem scanExponent_spelling {exponent : Option (Bool × List Char)}
    (h : ∀ power ∈ exponent, IsDigits power.2) {rest : Text} (hrest : rest.EndsNumeral) :
    scanExponent (exponentSpelling exponent ++ rest) = (exponent, rest) := by
  match exponent with
  | none =>
      unfold scanExponent
      split
      · next c more heq =>
          simp only [exponentSpelling, List.nil_append] at heq
          have := (hrest c (by simp [heq])).2
          rw [if_neg (by simp at this; tauto)]
          rfl
      · rfl
  | some (negative, digits) =>
      obtain ⟨hne, hdigits⟩ := h _ rfl
      simp only [exponentSpelling, List.cons_append, scanExponent, true_or, if_true]
      rw [scanSign_sign, Text.spanDigits_append hdigits hrest.noDigitAhead]
      cases digits with
      | nil => exact absurd rfl hne
      | cons c cs => rfl

/-! What comes after a part of a numeral cannot be taken for more of that part. -/

theorem noDigitAhead_exponentSpelling (exponent : Option (Bool × List Char)) {rest : Text}
    (hrest : rest.EndsNumeral) : (exponentSpelling exponent ++ rest).NoDigitAhead := by
  match exponent with
  | none => exact hrest.noDigitAhead
  | some (negative, digits) =>
      intro c hc
      simp only [exponentSpelling, List.cons_append, List.head?_cons, Option.some.injEq,
        CodePoint.scalar.injEq] at hc
      rw [← hc]
      rfl

theorem head?_exponentSpelling_ne_point (exponent : Option (Bool × List Char)) {rest : Text}
    (hrest : rest.EndsNumeral) :
    (exponentSpelling exponent ++ rest).head? ≠ some (.scalar '.') := by
  match exponent with
  | none =>
      intro h
      have := (hrest '.' h).2
      simp at this
  | some (negative, digits) => simp [exponentSpelling]

theorem noDigitAhead_fractionSpelling (fraction : Option (List Char)) {rest : Text}
    (hrest : rest.NoDigitAhead) : (fractionSpelling fraction ++ rest).NoDigitAhead := by
  cases fraction with
  | none => exact hrest
  | some digits =>
      intro c hc
      simp only [fractionSpelling, List.cons_append, List.head?_cons, Option.some.injEq,
        CodePoint.scalar.injEq] at hc
      rw [← hc]
      rfl

/-- The first code point of a numeral without its sign is a digit. -/
theorem WellSpelled.exists_whole {n : Numeral} (h : n.WellSpelled) :
    ∃ c cs, n.whole = c :: cs ∧ c.isDigit := by
  obtain ⟨hne, hdigits⟩ := h.whole
  cases hw : n.whole with
  | nil => exact absurd hw hne
  | cons c cs => exact ⟨c, cs, rfl, hdigits c (by simp [hw])⟩

theorem WellSpelled.whole_ne_minus {n : Numeral} (h : n.WellSpelled) (rest more : Text) :
    Text.ofChars n.whole ++ rest ≠ .scalar '-' :: more := by
  obtain ⟨c, cs, hw, hdigit⟩ := h.exists_whole
  intro heq
  rw [hw] at heq
  simp only [Text.ofChars, List.map_cons, List.cons_append, List.cons.injEq,
    CodePoint.scalar.injEq] at heq
  rw [heq.1] at hdigit
  exact absurd hdigit (by decide)

/-- A spelled numeral is read back, whatever comes after it. -/
theorem scan?_spelling {n : Numeral} (h : n.WellSpelled) {rest : Text}
    (hrest : rest.EndsNumeral) : scan? (n.spelling ++ rest) = some (n, rest) := by
  have hexp := noDigitAhead_exponentSpelling n.exponent hrest
  have hpoint := head?_exponentSpelling_ne_point n.exponent hrest
  have hfrac := noDigitAhead_fractionSpelling n.fraction hexp
  have hwhole := scanWhole?_ofChars h.whole h.lead hfrac
  have hminus := h.whole_ne_minus
    (fractionSpelling n.fraction ++ (exponentSpelling n.exponent ++ rest))
  have hspell : n.spelling ++ rest = signText n.negative ++ (Text.ofChars n.whole
      ++ (fractionSpelling n.fraction ++ (exponentSpelling n.exponent ++ rest))) := by
    simp [spelling, List.append_assoc]
  unfold scan?
  split
  next negative unsigned hsign =>
    obtain ⟨rfl, rfl⟩ : negative = n.negative ∧ unsigned = Text.ofChars n.whole
        ++ (fractionSpelling n.fraction ++ (exponentSpelling n.exponent ++ rest)) := by
      rw [hspell] at hsign
      cases hneg : n.negative with
      | true =>
          rw [hneg] at hsign
          cases hsign
          exact ⟨rfl, rfl⟩
      | false =>
          rw [hneg, show signText false = [] from rfl, List.nil_append] at hsign
          split at hsign
          · next heq => exact absurd heq (hminus _)
          · cases hsign
            exact ⟨rfl, rfl⟩
    simp only [hwhole, scanFraction_spelling h.fraction hexp hpoint,
      scanExponent_spelling h.exponent hrest]

/-- The other way round, the digits of a numeral that was read are digits. -/
theorem isDigit_of_mem_whole {t rest : Text} {n : Numeral} (h : scan? t = some (n, rest)) :
    ∀ c ∈ n.whole, c.isDigit := by
  unfold scan? at h
  split at h
  next negative unsigned hsign =>
  split at h
  · cases h
  · next whole afterWhole hwhole =>
      simp only [Option.some.injEq, Prod.mk.injEq] at h
      obtain ⟨rfl, -⟩ := h
      intro c hc
      unfold scanWhole? at hwhole
      split at hwhole
      · cases hwhole
        rw [List.mem_singleton.mp hc]
        rfl
      · split at hwhole
        · cases hwhole
        · next hspan =>
            cases hwhole
            refine Text.isDigit_of_mem_spanDigits (t := unsigned) ?_
            rw [hspan]
            exact hc

/-! ## Integers -/

/-- The numeral that an integer is written as. -/
def ofInt (n : Int) : Numeral :=
  ⟨decide (n < 0), Nat.toDigits 10 n.natAbs, none, none⟩

theorem wellSpelled_ofInt (n : Int) : (ofInt n).WellSpelled := by
  refine ⟨isDigits_toDigits _, ?_, by simp [ofInt], by simp [ofInt]⟩
  by_cases hzero : n.natAbs = 0
  · left
    simp [ofInt, hzero]
  · exact Or.inr (head?_toDigits_ne_zero hzero)

theorem spelling_ofInt (n : Int) : (ofInt n).spelling = Text.ofInt n := by
  unfold spelling Text.ofInt
  by_cases hneg : n < 0
  · simp [ofInt, hneg, signText, fractionSpelling, exponentSpelling, Text.ofNat, Text.ofString,
      Text.ofChars]
  · simp [ofInt, hneg, signText, fractionSpelling, exponentSpelling, Text.ofNat, Text.ofString,
      Text.ofChars]

theorem toInt?_ofInt (n : Int) : (ofInt n).toInt? = some n := by
  simp only [ofInt, toInt?, naturalOf_toDigits, signed, decide_eq_true_eq, Option.some.injEq]
  split <;> omega

end Numeral

end SecurityRules
