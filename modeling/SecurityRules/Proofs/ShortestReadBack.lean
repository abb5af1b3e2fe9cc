import Mathlib.Data.List.TakeWhile
import SecurityRules.Decimal.Shortest
import SecurityRules.Proofs.NearestBinary64
import SecurityRules.Proofs.NumeralSpelling

/-!
# A printed number reads back

A finite number is printed with the fewest digits that read back to it. That it
reads back is therefore a matter of layout: whichever grid the digits came from,
and should no grid have served, the exact value steps in, the zeros at their end
are dropped, the point is put in its place or an exponent is written, and none
of this may change what the digits stand for.

Each layout is shown to be the spelling of a numeral, and the numeral to stand
for the same decimal. With the theory of `scan?` this gives the statement that
documents need, `exists_numeral_text`.
-/

namespace SecurityRules

/-! ## The layouts of a decimal -/

/-- A numeral that shows a decimal in some layout. -/
structure Numeral.Shows (n : Numeral) (negative : Bool) (d : Decimal) (layout : List Char) :
    Prop where
  wellSpelled : n.WellSpelled
  spelling : n.spelling = signText negative ++ Text.ofChars layout
  toInt? : n.toInt? = none
  toBinary64 : n.toBinary64
    = .ofDecimal negative (naturalOf d.digits) (d.point - d.digits.length)

/-- Digits without a zero in front. -/
structure Decimal.Leads (d : Decimal) : Prop where
  digits : IsDigits d.digits
  lead : d.digits.head? ≠ some '0'

namespace Decimal

/-- Below one: zeros stand between the point and the digits. -/
theorem exists_shows_small (negative : Bool) {d : Decimal} (h : d.Leads) (hpoint : d.point ≤ 0) :
    ∃ n : Numeral, n.Shows negative d
      (['0', '.'] ++ List.replicate (-d.point).toNat '0' ++ d.digits) := by
  refine ⟨⟨negative, ['0'], some (List.replicate (-d.point).toNat '0' ++ d.digits), none⟩,
    ⟨⟨by simp, by simp⟩, Or.inl rfl, ?_, by simp⟩, ?_, rfl, ?_⟩
  · rintro digits ⟨⟩
    exact h.digits.zeros_append _
  · simp [Numeral.spelling, Numeral.fractionSpelling, Numeral.exponentSpelling, Text.ofChars]
  · simp only [Numeral.toBinary64, Option.getD_some]
    congr 1
    · rw [naturalOf_append, naturalOf_append, naturalOf_zeros, naturalOf_zero]
      simp
    · simp
      omega

/-- An integer: zeros stand between the digits and the point. -/
theorem exists_shows_whole (negative : Bool) {d : Decimal} (h : d.Leads) (hpoint : 0 < d.point)
    (hlength : d.digits.length ≤ d.point.toNat) :
    ∃ n : Numeral, n.Shows negative d
      (d.digits ++ List.replicate (d.point.toNat - d.digits.length) '0' ++ ['.', '0']) := by
  refine ⟨⟨negative, d.digits ++ List.replicate (d.point.toNat - d.digits.length) '0',
    some ['0'], none⟩, ⟨h.digits.append_zeros _, Or.inr ?_, ?_, by simp⟩, ?_, rfl, ?_⟩
  · simpa [List.head?_append_of_ne_nil _ h.digits.1] using h.lead
  · rintro digits ⟨⟩
    exact ⟨by simp, by simp⟩
  · simp [Numeral.spelling, Numeral.fractionSpelling, Numeral.exponentSpelling, Text.ofChars]
  · simp only [Numeral.toBinary64, Option.getD_some]
    rw [naturalOf_append, naturalOf_append, naturalOf_zeros,
      ← Binary64.ofDecimal_mul_pow negative (naturalOf d.digits)
        (d.point.toNat - d.digits.length + 1)]
    congr 1
    · rw [naturalOf_zero, List.length_replicate, List.length_singleton, pow_succ]
      ring
    · simp
      omega

/-- The point stands among the digits. -/
theorem exists_shows_mixed (negative : Bool) {d : Decimal} (h : d.Leads) (hpoint : 0 < d.point)
    (hlength : d.point.toNat < d.digits.length) :
    ∃ n : Numeral, n.Shows negative d
      (d.digits.take d.point.toNat ++ ['.'] ++ d.digits.drop d.point.toNat) := by
  refine ⟨⟨negative, d.digits.take d.point.toNat, some (d.digits.drop d.point.toNat), none⟩,
    ⟨⟨?_, fun c hc => h.digits.2 c (List.mem_of_mem_take hc)⟩, Or.inr ?_, ?_, by simp⟩, ?_,
    rfl, ?_⟩
  · simp only [ne_eq, List.take_eq_nil_iff, not_or]
    exact ⟨by omega, h.digits.1⟩
  · rw [List.head?_take, if_neg (by omega)]
    exact h.lead
  · rintro digits ⟨⟩
    refine ⟨?_, fun c hc => h.digits.2 c (List.mem_of_mem_drop hc)⟩
    simp only [ne_eq, List.drop_eq_nil_iff]
    omega
  · simp [Numeral.spelling, Numeral.fractionSpelling, Numeral.exponentSpelling, Text.ofChars]
  · simp only [Numeral.toBinary64, Option.getD_some, List.take_append_drop]
    congr 1
    simp only [List.length_drop]
    omega

theorem exists_shows_positional (negative : Bool) {d : Decimal} (h : d.Leads) :
    ∃ n : Numeral, n.Shows negative d d.positional := by
  unfold positional
  split
  · next hpoint => exact exists_shows_small negative h hpoint
  · next hpoint =>
      split
      · next hlength => exact exists_shows_whole negative h (by omega) hlength
      · next hlength => exact exists_shows_mixed negative h (by omega) (by omega)

/-- The exponent that is written, with its sign and at least two digits. -/
def power (d : Decimal) : Bool × List Char :=
  let digits := Nat.toDigits 10 (d.point - 1).natAbs
  (decide (d.point - 1 < 0), List.replicate (2 - digits.length) '0' ++ digits)

theorem isDigits_power (d : Decimal) : IsDigits d.power.2 :=
  (isDigits_toDigits _).zeros_append _

theorem signed_power (d : Decimal) : signed d.power.1 (naturalOf d.power.2) = d.point - 1 := by
  simp only [power, naturalOf_append, naturalOf_zeros, naturalOf_toDigits, signed,
    decide_eq_true_eq]
  split <;> omega

theorem scientific_eq (d : Decimal) :
    d.scientific = (match d.digits with
      | first :: second :: rest => first :: '.' :: second :: rest
      | short => short) ++ ['e', if d.power.1 then '-' else '+'] ++ d.power.2 := by
  have hsign : (if d.power.1 then '-' else '+') = if d.point - 1 < 0 then '-' else '+' := by
    simp only [power, decide_eq_true_eq]
  rw [hsign]
  exact List.append_assoc _ _ _

theorem exists_shows_scientific (negative : Bool) {d : Decimal} (h : d.Leads) :
    ∃ n : Numeral, n.Shows negative d d.scientific := by
  have hsigned := signed_power d
  rw [scientific_eq]
  obtain ⟨⟨hne, hall⟩, hlead⟩ := h
  match hd : d.digits with
  | [] => exact absurd hd hne
  | [first] =>
      rw [hd] at hall hlead
      refine ⟨⟨negative, [first], none, some d.power⟩,
        ⟨⟨by simp, hall⟩, Or.inr hlead, by simp, ?_⟩, ?_, rfl, ?_⟩
      · rintro p ⟨⟩
        exact isDigits_power d
      · simp [Numeral.spelling, Numeral.fractionSpelling, Numeral.exponentSpelling, Text.ofChars]
      · simp only [Numeral.toBinary64, Option.getD_none, hsigned, hd, List.append_nil]
        congr 1
        simp
  | first :: second :: rest =>
      rw [hd] at hall hlead
      refine ⟨⟨negative, [first], some (second :: rest), some d.power⟩,
        ⟨⟨by simp, ?_⟩, Or.inr (by simpa using hlead), ?_, ?_⟩, ?_, rfl, ?_⟩
      · intro c hc
        exact hall c (by simp_all)
      · rintro digits ⟨⟩
        exact ⟨by simp, fun c hc => hall c (by simp_all)⟩
      · rintro p ⟨⟩
        exact isDigits_power d
      · simp [Numeral.spelling, Numeral.fractionSpelling, Numeral.exponentSpelling, Text.ofChars]
      · simp only [Numeral.toBinary64, Option.getD_some, hsigned, hd, List.singleton_append]
        congr 1
        simp
        omega

theorem exists_shows_layout (negative : Bool) {d : Decimal} (h : d.Leads) :
    ∃ n : Numeral, n.Shows negative d d.layout := by
  unfold layout
  split
  · exact exists_shows_positional negative h
  · exact exists_shows_scientific negative h

end Decimal

/-! ## The digits of a number -/

namespace Binary64

theorem ofDecimal_of_neighbour? {x : Binary64} {r : ℚ} {exponent : Int} {n : Nat}
    (h : neighbour? x r exponent = some n) : ofDecimal false n exponent = x := by
  unfold neighbour? at h
  simp only at h
  split at h
  · next hlow =>
      cases h
      exact of_decide_eq_true hlow.1
  · split at h
    · next hhigh =>
        cases h
        exact of_decide_eq_true hhigh
    · cases h

/-- The digits that stand for a number read back to it. That seventeen of them
are enough plays no part: if they were not, the exact value would stand. -/
theorem ofDecimal_shortest {mantissa : Nat} {exponent : Int} (h : Normalised mantissa exponent)
    (hpos : 0 < mantissa) :
    ofDecimal false (shortest mantissa exponent).1 (shortest mantissa exponent).2
      = .finite false mantissa exponent := by
  unfold shortest
  simp only [Nat.shiftLeft_eq, Nat.pow_eq]
  split
  · next answer hfound =>
      obtain ⟨i, -, hi⟩ := List.exists_of_findSome?_eq_some hfound
      obtain ⟨digits, hneighbour, rfl⟩ := Option.map_eq_some_iff.mp hi
      exact ofDecimal_of_neighbour? hneighbour
  · -- no grid served, and the digits are those of the exact value
    split
    · next hexp =>
        refine ofDecimal_of_eq h hpos ?_ false
        obtain ⟨k, rfl⟩ := Int.eq_ofNat_of_zero_le hexp
        rw [decimalValue_eq, magnitude_eq]
        simp
    · next hexp =>
        refine ofDecimal_of_eq h hpos ?_ false
        obtain ⟨k, hk⟩ := Int.eq_ofNat_of_zero_le (show 0 ≤ -exponent by omega)
        obtain rfl : exponent = -(k : Int) := by omega
        rw [decimalValue_eq, magnitude_eq]
        simp only [neg_neg, Int.toNat_natCast, zpow_neg, zpow_natCast]
        push_cast
        rw [show (10 : ℚ) = 5 * 2 by norm_num, mul_pow]
        field_simp

theorem digits_shortest_ne_zero {mantissa : Nat} {exponent : Int}
    (h : Normalised mantissa exponent) (hpos : 0 < mantissa) :
    (shortest mantissa exponent).1 ≠ 0 := by
  intro hzero
  have hread := ofDecimal_shortest h hpos
  rw [hzero] at hread
  simp only [ofDecimal, true_or, if_true, finite.injEq] at hread
  omega

theorem trimmed_split (digits : Nat) (exponent : Int) :
    ∃ k, Nat.toDigits 10 digits = (trimmed digits exponent).digits ++ List.replicate k '0' := by
  set all := Nat.toDigits 10 digits
  have hsplit := List.takeWhile_append_dropWhile (p := (· = '0')) (l := all.reverse)
  have hzeros : all.reverse.takeWhile (· = '0')
      = List.replicate (all.reverse.takeWhile (· = '0')).length '0' :=
    List.eq_replicate_of_mem fun c hc => by simpa using List.mem_takeWhile_imp hc
  refine ⟨(all.reverse.takeWhile (· = '0')).length, ?_⟩
  have := congrArg List.reverse hsplit
  rw [List.reverse_append, List.reverse_reverse] at this
  rw [← List.reverse_replicate, ← hzeros]
  exact this.symm

/-- Digits without the zeros at their end are still digits of the same number. -/
theorem ofDecimal_trimmed (negative : Bool) (digits : Nat) (exponent : Int) :
    ofDecimal negative (naturalOf (trimmed digits exponent).digits)
        ((trimmed digits exponent).point - (trimmed digits exponent).digits.length)
      = ofDecimal negative digits exponent := by
  obtain ⟨k, hk⟩ := trimmed_split digits exponent
  have hnumber : digits = naturalOf (trimmed digits exponent).digits * 10 ^ k := by
    have := congrArg naturalOf hk
    rw [naturalOf_toDigits, naturalOf_append, naturalOf_zeros] at this
    simpa using this
  have hpoint : exponent = (trimmed digits exponent).point
      - (trimmed digits exponent).digits.length - k := by
    have := congrArg List.length hk
    simp only [List.length_append, List.length_replicate] at this
    simp only [trimmed] at this ⊢
    omega
  rw [← ofDecimal_mul_pow negative _ k, ← hnumber, ← hpoint]

theorem leads_trimmed {digits : Nat} (h : digits ≠ 0) (exponent : Int) :
    (trimmed digits exponent).Leads := by
  obtain ⟨k, hk⟩ := trimmed_split digits exponent
  have hne : (trimmed digits exponent).digits ≠ [] := by
    intro hnil
    rw [hnil, List.nil_append] at hk
    have := congrArg naturalOf hk
    rw [naturalOf_toDigits, naturalOf_zeros] at this
    exact h this
  refine ⟨⟨hne, fun c hc => (isDigits_toDigits digits).2 c ?_⟩, ?_⟩
  · rw [hk]
    exact List.mem_append_left _ hc
  · have := head?_toDigits_ne_zero h
    rwa [hk, List.head?_append_of_ne_nil _ hne] at this

/-- The text of a finite number is a numeral that reads back to the number. -/
theorem exists_numeral_text (words : FloatWords) (negative : Bool) {mantissa : Nat}
    {exponent : Int} (h : Normalised mantissa exponent) :
    ∃ n : Numeral, n.WellSpelled ∧ n.spelling = (finite negative mantissa exponent).text words
      ∧ n.toInt? = none ∧ n.toBinary64 = .finite negative mantissa exponent := by
  rcases Nat.eq_zero_or_pos mantissa with rfl | hpos
  · obtain rfl : exponent = minExponent := h.full.resolve_left (by norm_num)
    refine ⟨⟨negative, ['0'], some ['0'], none⟩, ⟨⟨by simp, by simp⟩, Or.inl rfl, ?_, by simp⟩, ?_,
      rfl, ?_⟩
    · rintro digits ⟨⟩
      exact ⟨by simp, by simp⟩
    · cases negative <;> rfl
    · cases negative <;> rfl
  · have hne := digits_shortest_ne_zero h hpos
    obtain ⟨n, hn⟩ := Decimal.exists_shows_layout negative
      (leads_trimmed hne (shortest mantissa exponent).2)
    refine ⟨n, hn.wellSpelled, ?_, hn.toInt?, ?_⟩
    · rw [hn.spelling]
      simp only [text, if_neg hpos.ne', if_neg hne, signText]
      cases negative <;> rfl
    · rw [hn.toBinary64, ofDecimal_trimmed, ofDecimal_sign, ofDecimal_shortest h hpos]
      rfl

end Binary64

end SecurityRules
