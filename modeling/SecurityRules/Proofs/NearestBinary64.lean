import Mathlib.Algebra.Order.Field.Power
import Mathlib.Algebra.Order.Floor.Semifield
import Mathlib.Data.Rat.Floor
import Mathlib.Tactic.FieldSimp
import Mathlib.Tactic.Linarith
import Mathlib.Tactic.Positivity
import Mathlib.Tactic.Ring
import SecurityRules.Decimal.Binary64

/-!
# Reading a decimal gives the nearest binary64 number

`Binary64.nearest` finds an exponent from the logarithms of a numerator and a
denominator, scales, rounds, and mends a carry. What it computes is said here
in rationals: `Scales` is the property that makes an exponent the right one, and
no rational has two of them, so the estimate that the logarithms give need only
be shown to land on it.

Two things come out. Whatever decimal is read, the number is `Canonical`: its
mantissa has 53 bits, and fewer only at the least exponent. And a decimal that
is equal to a canonical number is read as that number, which is what makes
printing and reading inverse to each other.
-/

namespace SecurityRules

/-! ## The definitions as rationals -/

theorem decimalValue_eq (digits : Nat) (exponent : Int) :
    decimalValue digits exponent = (digits : ℚ) * 10 ^ exponent := by
  simp only [decimalValue, Nat.pow_eq]
  split
  · next h =>
      obtain ⟨n, rfl⟩ := Int.eq_ofNat_of_zero_le h
      rw [Rat.mkRat_eq_div]
      simp
  · next h =>
      obtain ⟨n, hn⟩ := Int.eq_ofNat_of_zero_le (show 0 ≤ -exponent by omega)
      obtain rfl : exponent = -(n : Int) := by omega
      rw [Rat.mkRat_eq_div]
      simp [zpow_neg, div_eq_mul_inv]

namespace Binary64

theorem magnitude_eq (mantissa : Nat) (exponent : Int) :
    magnitude mantissa exponent = (mantissa : ℚ) * 2 ^ exponent := by
  simp only [magnitude, Nat.shiftLeft_eq, one_mul]
  split
  · next h =>
      obtain ⟨n, rfl⟩ := Int.eq_ofNat_of_zero_le h
      rw [Rat.mkRat_eq_div]
      simp
  · next h =>
      obtain ⟨n, hn⟩ := Int.eq_ofNat_of_zero_le (show 0 ≤ -exponent by omega)
      obtain rfl : exponent = -(n : Int) := by omega
      rw [Rat.mkRat_eq_div]
      simp [zpow_neg, div_eq_mul_inv]

theorem magnitude_pos {mantissa : Nat} (h : 0 < mantissa) (exponent : Int) :
    0 < magnitude mantissa exponent := by
  rw [magnitude_eq]
  positivity

theorem magnitude_div (mantissa : Nat) (exponent : Int) :
    magnitude mantissa exponent / 2 ^ exponent = mantissa := by
  rw [magnitude_eq, mul_div_assoc, div_self (by positivity), mul_one]

theorem overPower_pos (r : ℚ) (exponent : Int) : 0 < (overPower r exponent).2 := by
  simp only [overPower, Nat.shiftLeft_eq]
  split
  · exact Nat.mul_pos r.den_pos (by positivity)
  · exact r.den_pos

theorem natAbs_num_div_den {r : ℚ} (hr : 0 ≤ r) : (r.num.natAbs : ℚ) / r.den = r := by
  have hnum : ((r.num.natAbs : ℤ) : ℚ) = r.num := by
    rw [Int.natAbs_of_nonneg (Rat.num_nonneg.mpr hr)]
  calc (r.num.natAbs : ℚ) / r.den = ((r.num.natAbs : ℤ) : ℚ) / r.den := by rw [Int.cast_natCast]
    _ = r.num / r.den := by rw [hnum]
    _ = r := Rat.num_div_den r

theorem overPower_ratio {r : ℚ} (hr : 0 ≤ r) (exponent : Int) :
    ((overPower r exponent).1 : ℚ) / (overPower r exponent).2 = r / 2 ^ exponent := by
  have hfrac := natAbs_num_div_den hr
  have hden : (r.den : ℚ) ≠ 0 := by exact_mod_cast r.den_nz
  simp only [overPower, Nat.shiftLeft_eq]
  split
  · next h =>
      obtain ⟨n, rfl⟩ := Int.eq_ofNat_of_zero_le h
      conv_rhs => rw [← hfrac]
      simp [div_div]
  · next h =>
      obtain ⟨n, hn⟩ := Int.eq_ofNat_of_zero_le (show 0 ≤ -exponent by omega)
      obtain rfl : exponent = -(n : Int) := by omega
      conv_rhs => rw [← hfrac]
      simp [zpow_neg, div_mul_eq_mul_div]

theorem overPower_floor {r : ℚ} (hr : 0 ≤ r) (exponent : Int) :
    (overPower r exponent).1 / (overPower r exponent).2 = ⌊r / 2 ^ exponent⌋₊ := by
  rw [← overPower_ratio hr, Nat.floor_div_eq_div]

/-- The logarithms of numerator and denominator bracket a rational. -/
theorem lt_two_zpow_log2 {r : ℚ} (hr : 0 < r) :
    r < 2 ^ ((r.num.natAbs.log2 : Int) - r.den.log2 + 1) := by
  have hden : (0 : ℚ) < r.den := by exact_mod_cast r.den_pos
  have hnum : (r.num.natAbs : ℚ) < 2 ^ (r.num.natAbs.log2 + 1) := by
    exact_mod_cast Nat.lt_log2_self
  have hlow : (2 : ℚ) ^ r.den.log2 ≤ r.den := by
    exact_mod_cast Nat.log2_self_le r.den_nz
  conv_lhs => rw [← natAbs_num_div_den hr.le]
  rw [div_lt_iff₀ hden]
  calc (r.num.natAbs : ℚ) < 2 ^ (r.num.natAbs.log2 + 1) := hnum
    _ = 2 ^ ((r.num.natAbs.log2 : Int) - r.den.log2 + 1) * 2 ^ r.den.log2 := by
        rw [← zpow_natCast, ← zpow_natCast, ← zpow_add₀ two_ne_zero]
        congr 1
        push_cast
        ring
    _ ≤ _ := by gcongr

theorem two_zpow_log2_lt {r : ℚ} (hr : 0 < r) :
    2 ^ ((r.num.natAbs.log2 : Int) - r.den.log2 - 1) < r := by
  have hden : (0 : ℚ) < r.den := by exact_mod_cast r.den_pos
  have hnz : r.num.natAbs ≠ 0 := by
    have := Rat.num_pos.mpr hr
    omega
  have hnum : (2 : ℚ) ^ r.num.natAbs.log2 ≤ r.num.natAbs := by
    exact_mod_cast Nat.log2_self_le hnz
  have hhigh : (r.den : ℚ) < 2 ^ (r.den.log2 + 1) := by
    exact_mod_cast Nat.lt_log2_self
  conv_rhs => rw [← natAbs_num_div_den hr.le]
  rw [lt_div_iff₀ hden]
  calc (2 : ℚ) ^ ((r.num.natAbs.log2 : Int) - r.den.log2 - 1) * r.den
      < 2 ^ ((r.num.natAbs.log2 : Int) - r.den.log2 - 1) * 2 ^ (r.den.log2 + 1) := by gcongr
    _ = 2 ^ r.num.natAbs.log2 := by
        rw [← zpow_natCast, ← zpow_natCast, ← zpow_add₀ two_ne_zero]
        congr 1
        push_cast
        ring
    _ ≤ _ := hnum

/-! ## The exponent -/

/-- A mantissa and an exponent as rounding gives them: the mantissa has 53 bits,
and fewer only at the least exponent. -/
structure Normalised (mantissa : Nat) (exponent : Int) : Prop where
  lt : mantissa < 2 ^ 53
  least : minExponent ≤ exponent
  greatest : exponent ≤ maxExponent
  full : 2 ^ 52 ≤ mantissa ∨ exponent = minExponent

/-- The numbers that reading a decimal gives. -/
def Canonical : Binary64 → Prop
  | .finite _ mantissa exponent => Normalised mantissa exponent
  | _ => True

/-- What makes an exponent the right one for a positive rational: in units of
its power of two the rational has 53 bits before the point, and fewer only at
the least exponent. -/
structure Scales (r : ℚ) (exponent : Int) : Prop where
  least : minExponent ≤ exponent
  lt : r / 2 ^ exponent < 2 ^ 53
  full : 2 ^ 52 ≤ r / 2 ^ exponent ∨ exponent = minExponent

theorem Scales.le {r : ℚ} {e e' : Int} (h : Scales r e) (h' : Scales r e') : e ≤ e' := by
  by_contra hlt
  have hfull : 2 ^ 52 ≤ r / 2 ^ e := by
    rcases h.full with hfull | hmin
    · exact hfull
    · have := h'.least
      omega
  -- one power of two further down there is a bit too many
  have hstep : r / 2 ^ e' = r / 2 ^ e * 2 ^ (e - e') := by
    rw [zpow_sub₀ two_ne_zero]
    field_simp
  have htwo : (2 : ℚ) ^ (1 : Int) ≤ 2 ^ (e - e') :=
    zpow_le_zpow_right₀ one_le_two (by omega)
  have := h'.lt
  rw [hstep] at this
  nlinarith

theorem Scales.unique {r : ℚ} {e e' : Int} (h : Scales r e) (h' : Scales r e') : e = e' :=
  le_antisymm (h.le h') (h'.le h)

/-- The exponent that is estimated from the logarithms and corrected once. -/
theorem scales_exponentOf {r : ℚ} (hr : 0 < r) : Scales r (exponentOf r) := by
  have hlow := two_zpow_log2_lt hr
  have hhigh := lt_two_zpow_log2 hr
  unfold exponentOf
  set log : Int := (r.num.natAbs.log2 : Int) - r.den.log2 with hlog
  set estimate := max minExponent (log - 53) with hestimate
  have hpow : (0 : ℚ) < 2 ^ estimate := by positivity
  have hlt54 : r / 2 ^ estimate < 2 ^ 54 := by
    rw [div_lt_iff₀ hpow]
    calc r < 2 ^ (log + 1) := hhigh
      _ ≤ 2 ^ (54 + estimate) := zpow_le_zpow_right₀ one_le_two (by omega)
      _ = 2 ^ 54 * 2 ^ estimate := by rw [zpow_add₀ two_ne_zero]; norm_num
  have hfull : 2 ^ 52 ≤ r / 2 ^ estimate ∨ estimate = minExponent := by
    rcases le_total (log - 53) minExponent with hle | hle
    · exact Or.inr (max_eq_left hle)
    · left
      rw [le_div_iff₀ hpow]
      calc (2 : ℚ) ^ 52 * 2 ^ estimate = 2 ^ (52 + estimate) := by
            rw [zpow_add₀ two_ne_zero]; norm_num
        _ = 2 ^ (log - 1) := by rw [hestimate, max_eq_right hle]; congr 1; ring
        _ ≤ r := hlow.le
  have hfloor : ((overPower r estimate).1 / (overPower r estimate).2 < 2 ^ 53)
      ↔ r / 2 ^ estimate < 2 ^ 53 := by
    rw [overPower_floor hr.le, Nat.floor_lt (by positivity)]
    norm_num
  simp only [Nat.shiftLeft_eq, one_mul]
  split
  · next h => exact ⟨le_max_left _ _, hfloor.mp h, hfull⟩
  · next h =>
      rw [hfloor, not_lt] at h
      have hhalf : r / 2 ^ (estimate + 1) = r / 2 ^ estimate / 2 := by
        rw [zpow_add_one₀ two_ne_zero, div_div]
      refine ⟨?_, ?_, Or.inl ?_⟩
      · have := le_max_left minExponent (log - 53)
        omega
      · rw [hhalf]; linarith
      · rw [hhalf]; linarith

theorem exponentOf_eq {r : ℚ} (hr : 0 < r) {e : Int} (h : Scales r e) : exponentOf r = e :=
  (scales_exponentOf hr).unique h

end Binary64

/-! ## Rounding -/

theorem le_roundHalfEven (num den : Nat) : num / den ≤ roundHalfEven num den := by
  unfold roundHalfEven
  simp only
  split
  · exact le_rfl
  · split <;> omega

theorem roundHalfEven_le (num den : Nat) : roundHalfEven num den ≤ num / den + 1 := by
  unfold roundHalfEven
  simp only
  split
  · omega
  · split
    · exact le_rfl
    · have := Nat.mod_lt (num / den) (show 0 < 2 by decide)
      omega

theorem roundHalfEven_mul {den : Nat} (h : 0 < den) (n : Nat) :
    roundHalfEven (n * den) den = n := by
  unfold roundHalfEven
  simp [Nat.mul_div_cancel _ h, h]

namespace Binary64

/-- Rounding may carry into a bit too many, and then the exponent goes up by one. -/
theorem canonical_nearest (negative : Bool) {r : ℚ} (hr : 0 ≤ r) :
    (nearest negative r).Canonical := by
  unfold nearest
  split
  · exact ⟨by decide, le_rfl, by decide, Or.inr rfl⟩
  · next hnum =>
      have hpos : 0 < r := by
        refine lt_of_le_of_ne hr fun h => hnum ?_
        rw [← h]
        rfl
      have hs := scales_exponentOf hpos
      have hfloor := overPower_floor hr (exponentOf r)
      have hlt : (overPower r (exponentOf r)).1 / (overPower r (exponentOf r)).2 < 2 ^ 53 := by
        rw [hfloor, Nat.floor_lt (by positivity)]
        exact_mod_cast hs.lt
      have hfull : 2 ^ 52 ≤ (overPower r (exponentOf r)).1 / (overPower r (exponentOf r)).2
          ∨ exponentOf r = minExponent := by
        refine hs.full.imp_left fun h => ?_
        rw [hfloor, Nat.le_floor_iff (by positivity)]
        exact_mod_cast h
      have hleast := hs.least
      clear hfloor
      simp only [Nat.shiftLeft_eq, one_mul]
      generalize overPower r (exponentOf r) = scaled at *
      have hle := le_roundHalfEven scaled.1 scaled.2
      have hge := roundHalfEven_le scaled.1 scaled.2
      split
      · -- the carry out of the top bit
        next hcarry =>
          split
          · exact trivial
          · next hmax => exact ⟨by norm_num, by omega, by omega, Or.inl le_rfl⟩
      · next hcarry =>
          split
          · exact trivial
          · next hmax =>
              exact ⟨by omega, hleast, by omega, hfull.imp_left fun h => h.trans hle⟩

theorem overPower_magnitude (mantissa : Nat) (exponent : Int) :
    (overPower (magnitude mantissa exponent) exponent).1
      = mantissa * (overPower (magnitude mantissa exponent) exponent).2 := by
  have hpos := overPower_pos (magnitude mantissa exponent) exponent
  have hden : ((overPower (magnitude mantissa exponent) exponent).2 : ℚ) ≠ 0 := by
    exact_mod_cast hpos.ne'
  have hratio := overPower_ratio (r := magnitude mantissa exponent)
    (by rw [magnitude_eq]; positivity) exponent
  rw [magnitude_div, div_eq_iff hden] at hratio
  exact_mod_cast hratio

/-- A number is the one nearest to itself. -/
theorem nearest_magnitude {mantissa : Nat} {exponent : Int} (h : Normalised mantissa exponent)
    (hpos : 0 < mantissa) (negative : Bool) :
    nearest negative (magnitude mantissa exponent) = .finite negative mantissa exponent := by
  have hmag := magnitude_pos hpos exponent
  have hexp : exponentOf (magnitude mantissa exponent) = exponent := by
    refine exponentOf_eq hmag ⟨h.least, ?_, h.full.imp_left fun hfull => ?_⟩
    · rw [magnitude_div]; exact_mod_cast h.lt
    · rw [magnitude_div]; exact_mod_cast hfull
  have hnum : (magnitude mantissa exponent).num.natAbs ≠ 0 := by
    have := Rat.num_pos.mpr hmag
    omega
  have hround : roundHalfEven (overPower (magnitude mantissa exponent) exponent).1
      (overPower (magnitude mantissa exponent) exponent).2 = mantissa := by
    rw [overPower_magnitude]
    exact roundHalfEven_mul (overPower_pos _ _) _
  have hlt := h.lt
  have hgreatest := h.greatest
  unfold nearest
  rw [if_neg hnum]
  simp only [hexp, hround, Nat.shiftLeft_eq, one_mul]
  rw [if_neg (show mantissa ≠ 2 ^ 53 by omega)]
  exact if_neg (by omega)

theorem canonical_ofDecimal (negative : Bool) (digits : Nat) (exponent : Int) :
    (ofDecimal negative digits exponent).Canonical := by
  unfold ofDecimal
  simp only
  split
  · exact ⟨by decide, le_rfl, by decide, Or.inr rfl⟩
  · split
    · exact trivial
    · exact canonical_nearest negative (by rw [decimalValue_eq]; positivity)

/-- A number with another sign. -/
def withSign (negative : Bool) : Binary64 → Binary64
  | .nan => .nan
  | .infinity _ => .infinity negative
  | .finite _ mantissa exponent => .finite negative mantissa exponent

theorem nearest_sign (negative : Bool) (r : ℚ) :
    nearest negative r = (nearest false r).withSign negative := by
  unfold nearest
  simp only
  repeat' split
  all_goals rfl

theorem ofDecimal_sign (negative : Bool) (digits : Nat) (exponent : Int) :
    ofDecimal negative digits exponent = (ofDecimal false digits exponent).withSign negative := by
  unfold ofDecimal
  simp only
  split
  · rfl
  · split
    · rfl
    · exact nearest_sign negative _

/-! ## Equal decimals are read alike

A decimal far outside the range of binary64 is settled by its size, the place
of its first digit. Neither the size nor the value changes when zeros at the end
of the digits are moved into the exponent. -/

theorem length_toDigits_mul_pow {digits : Nat} (h : digits ≠ 0) (k : Nat) :
    (Nat.toDigits 10 (digits * 10 ^ k)).length = (Nat.toDigits 10 digits).length + k := by
  induction k with
  | zero => simp
  | succ k ih =>
      have hpos : 0 < digits * 10 ^ k := by positivity
      rw [pow_succ, ← mul_assoc, mul_comm _ 10]
      have := Nat.toDigits_append_toDigits (b := 10) (n := digits * 10 ^ k) (d := 0) (by decide)
        hpos (by decide)
      rw [add_zero] at this
      rw [← this, List.length_append, ih]
      rfl

/-- Zeros at the end of the digits can be moved into the exponent. -/
theorem ofDecimal_mul_pow (negative : Bool) (digits k : Nat) (exponent : Int) :
    ofDecimal negative (digits * 10 ^ k) (exponent - k) = ofDecimal negative digits exponent := by
  by_cases h : digits = 0
  · simp [ofDecimal, h]
  · have hne : digits * 10 ^ k ≠ 0 := by positivity
    have hsize : ((Nat.toDigits 10 (digits * 10 ^ k)).length : Int) + (exponent - k)
        = (Nat.toDigits 10 digits).length + exponent := by
      rw [length_toDigits_mul_pow h]
      push_cast
      ring
    have hvalue : decimalValue (digits * 10 ^ k) (exponent - k) = decimalValue digits exponent := by
      rw [decimalValue_eq, decimalValue_eq, zpow_sub₀ (by norm_num)]
      push_cast
      rw [zpow_natCast]
      field_simp
    unfold ofDecimal
    simp only [hsize, hvalue, h, hne]

theorem decimalValue_lt (digits : Nat) (exponent : Int) :
    decimalValue digits exponent < 10 ^ ((Nat.toDigits 10 digits).length + exponent) := by
  have hlt : digits < 10 ^ (Nat.toDigits 10 digits).length :=
    (Nat.length_toDigits_le_iff (by decide) Nat.length_toDigits_pos).mp le_rfl
  rw [decimalValue_eq, zpow_add₀ (by norm_num)]
  gcongr
  rw [zpow_natCast]
  exact_mod_cast hlt

theorem le_decimalValue {digits : Nat} (h : digits ≠ 0) (exponent : Int) :
    10 ^ ((Nat.toDigits 10 digits).length + exponent - 1) ≤ decimalValue digits exponent := by
  have hpos := Nat.length_toDigits_pos (b := 10) (n := digits)
  obtain ⟨k, hk⟩ : ∃ k, (Nat.toDigits 10 digits).length = k + 1 :=
    ⟨_, (Nat.succ_pred hpos.ne').symm⟩
  have hle : 10 ^ k ≤ digits := by
    by_contra hlt
    rcases Nat.eq_zero_or_pos k with rfl | hk0
    · simp at hlt
      exact h hlt
    · have := (Nat.length_toDigits_le_iff (by decide) hk0).mpr (not_le.mp hlt)
      omega
  have hsize : ((k + 1 : Nat) : Int) + exponent - 1 = k + exponent := by
    push_cast
    ring
  rw [decimalValue_eq, hk, hsize, zpow_add₀ (by norm_num)]
  gcongr
  rw [zpow_natCast]
  exact_mod_cast hle

/-! A number is neither so small nor so large that the size of a decimal equal to it
would settle how the decimal is read. -/

theorem Normalised.le_magnitude {mantissa : Nat} {exponent : Int}
    (h : Normalised mantissa exponent) (hpos : 0 < mantissa) :
    2 ^ (-1074 : Int) ≤ magnitude mantissa exponent := by
  rw [magnitude_eq]
  calc (2 : ℚ) ^ (-1074 : Int) ≤ 2 ^ exponent := zpow_le_zpow_right₀ one_le_two h.least
    _ = 1 * 2 ^ exponent := (one_mul _).symm
    _ ≤ _ := by
        gcongr
        exact_mod_cast hpos

theorem Normalised.magnitude_lt {mantissa : Nat} {exponent : Int}
    (h : Normalised mantissa exponent) : magnitude mantissa exponent < 2 ^ 1024 := by
  rw [magnitude_eq]
  calc (mantissa : ℚ) * 2 ^ exponent < 2 ^ 53 * 2 ^ exponent := by
        gcongr
        exact_mod_cast h.lt
    _ ≤ 2 ^ 53 * 2 ^ (971 : Int) := by
        gcongr
        · norm_num
        · exact h.greatest
    _ = 2 ^ 1024 := by rw [zpow_ofNat, ← pow_add]

theorem le_size_of_le_decimalValue {digits : Nat} {place : Int}
    (h : 2 ^ (-1074 : Int) ≤ decimalValue digits place) :
    -330 ≤ ((Nat.toDigits 10 digits).length : Int) + place := by
  by_contra hlt
  have hvalue := decimalValue_lt digits place
  have hbound : (10 : ℚ) ^ (((Nat.toDigits 10 digits).length : Int) + place) ≤ 10 ^ (-331 : Int) :=
    zpow_le_zpow_right₀ (by norm_num) (by omega)
  have hgap : (10 : ℚ) ^ (-331 : Int) < 2 ^ (-1074 : Int) := by
    have hnat : 2 ^ 1074 < 10 ^ 331 := by decide +kernel
    rw [zpow_neg, zpow_neg, zpow_ofNat, zpow_ofNat]
    gcongr
    exact_mod_cast hnat
  exact absurd (hvalue.trans_le hbound) (not_lt.mpr (hgap.le.trans h))

theorem size_le_of_decimalValue_lt {digits : Nat} (hdigits : digits ≠ 0) {place : Int}
    (h : decimalValue digits place < 2 ^ 1024) :
    ((Nat.toDigits 10 digits).length : Int) + place ≤ 310 := by
  by_contra hlt
  have hvalue := le_decimalValue hdigits place
  have hbound : (10 : ℚ) ^ (310 : Int) ≤ 10 ^ ((Nat.toDigits 10 digits).length + place - 1) :=
    zpow_le_zpow_right₀ (by norm_num) (by omega)
  have hgap : (2 : ℚ) ^ 1024 < 10 ^ (310 : Int) := by
    have hnat : 2 ^ 1024 < 10 ^ 310 := by decide +kernel
    rw [zpow_ofNat]
    exact_mod_cast hnat
  exact absurd (hbound.trans hvalue) (not_le.mpr (h.trans hgap))

/-- A decimal that is equal to a number is read as that number. -/
theorem ofDecimal_of_eq {mantissa : Nat} {exponent : Int} (h : Normalised mantissa exponent)
    (hpos : 0 < mantissa) {digits : Nat} {place : Int}
    (heq : decimalValue digits place = magnitude mantissa exponent) (negative : Bool) :
    ofDecimal negative digits place = .finite negative mantissa exponent := by
  have hdigits : digits ≠ 0 := by
    rintro rfl
    have hmag := magnitude_pos hpos exponent
    rw [← heq, decimalValue_eq] at hmag
    simp at hmag
  have hsmall := le_size_of_le_decimalValue (heq ▸ h.le_magnitude hpos)
  have hlarge := size_le_of_decimalValue_lt hdigits (heq ▸ h.magnitude_lt)
  unfold ofDecimal
  simp only
  rw [if_neg (by simp [hdigits, hsmall]), if_neg (not_lt.mpr hlarge), heq]
  exact nearest_magnitude h hpos negative

end Binary64
end SecurityRules
