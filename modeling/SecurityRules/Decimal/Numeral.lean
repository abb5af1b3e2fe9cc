import SecurityRules.Decimal.Binary64
import SecurityRules.Text.CodePoint

/-!
# Numerals

A number as a document spells it: a sign, digits, a fraction, an exponent. A
numeral without fraction and exponent is an integer of any size, up to a limit
on the count of its digits; every other one is a binary64 number.
-/

namespace SecurityRules

/-- The most digits that an integer may be spelled with. -/
def maxIntegerDigits : Nat := 4300

/-- The message for an integer of too many digits. -/
def tooManyDigitsMessage (count : Nat) : Text :=
  "Exceeds the limit (4300 digits) for integer string conversion: value has "
    ++ Text.ofNat count
    ++ " digits; use sys.set_int_max_str_digits() to increase the limit"

/-- The digits at the front of a text, and what follows them. -/
def Text.spanDigits : Text → List Char × Text
  | .scalar c :: rest =>
      if c.isDigit then
        let (digits, after) := spanDigits rest
        (c :: digits, after)
      else ([], .scalar c :: rest)
  | t => ([], t)

/-- Splitting off digits loses nothing. -/
theorem Text.spanDigits_length (t : Text) :
    (spanDigits t).1.length + (spanDigits t).2.length = t.length := by
  fun_induction spanDigits t with
  | case1 c rest hdigit digits after hspan ih =>
      rw [hspan] at ih
      simp only [List.length_cons] at ih ⊢
      omega
  | case2 c rest hdigit => simp
  | case3 t => simp

/-- The natural number that decimal digits spell. -/
def naturalOf (digits : List Char) : Nat :=
  Nat.ofDigitChars 10 digits 0

/-- A signed number with its magnitude. -/
def signed (negative : Bool) (n : Nat) : Int :=
  if negative then -n else n

/-- A number as it is spelled. The exponent comes with its sign. -/
structure Numeral where
  negative : Bool
  whole : List Char
  fraction : Option (List Char)
  exponent : Option (Bool × List Char)
  deriving DecidableEq, Repr

namespace Numeral

/-- The number of an integer numeral; `none` if it has a fraction or an exponent. -/
def toInt? (n : Numeral) : Option Int :=
  match n.fraction, n.exponent with
  | none, none => some (signed n.negative (naturalOf n.whole))
  | _, _ => none

/-- The binary64 number nearest to a numeral. -/
def toBinary64 (n : Numeral) : Binary64 :=
  let fraction := n.fraction.getD []
  let exponent := match n.exponent with
    | none => 0
    | some (negative, digits) => signed negative (naturalOf digits)
  .ofDecimal n.negative (naturalOf (n.whole ++ fraction)) (exponent - fraction.length)

/-- A point and the digits after it, if both are there. -/
def scanFraction : Text → Option (List Char) × Text
  | .scalar '.' :: rest =>
      match Text.spanDigits rest with
      | ([], _) => (none, .scalar '.' :: rest)
      | (digits, after) => (some digits, after)
  | t => (none, t)

/-- A sign in front of an exponent. -/
def scanSign : Text → Bool × Text
  | .scalar '-' :: rest => (true, rest)
  | .scalar '+' :: rest => (false, rest)
  | t => (false, t)

/-- The mark of an exponent, its sign and its digits, if all are there. -/
def scanExponent (t : Text) : Option (Bool × List Char) × Text :=
  match t with
  | .scalar c :: rest =>
      if c = 'e' ∨ c = 'E' then
        let (negative, digitsAndMore) := scanSign rest
        match Text.spanDigits digitsAndMore with
        | ([], _) => (none, t)
        | (digits, after) => (some (negative, digits), after)
      else (none, t)
  | _ => (none, t)

/-- The digits before the point: a zero alone, or digits that start with another. -/
def scanWhole? : Text → Option (List Char × Text)
  | .scalar '0' :: rest => some (['0'], rest)
  | t =>
      match Text.spanDigits t with
      | ([], _) => none
      | (digits, after) => some (digits, after)

/-- The longest numeral at the front of a text, and what follows it. -/
def scan? (t : Text) : Option (Numeral × Text) :=
  let (negative, unsigned) := match t with
    | .scalar '-' :: rest => (true, rest)
    | t => (false, t)
  match scanWhole? unsigned with
  | none => none
  | some (whole, afterWhole) =>
      let (fraction, afterFraction) := scanFraction afterWhole
      let (exponent, after) := scanExponent afterFraction
      some (⟨negative, whole, fraction, exponent⟩, after)

theorem scanFraction_length_le (t : Text) : (scanFraction t).2.length ≤ t.length := by
  unfold scanFraction
  split
  · rename_i rest
    have hlength := Text.spanDigits_length rest
    split
    · exact Nat.le_refl _
    · rename_i digits after _ hspan
      simp only [hspan] at hlength
      simp only [List.length_cons]
      omega
  · exact Nat.le_refl _

theorem scanSign_length_le (t : Text) : (scanSign t).2.length ≤ t.length := by
  fun_cases scanSign t <;> simp

theorem scanExponent_length_le (t : Text) : (scanExponent t).2.length ≤ t.length := by
  unfold scanExponent
  split
  · rename_i c rest
    split
    · have hrest := scanSign_length_le rest
      have hlength := Text.spanDigits_length (scanSign rest).2
      simp only
      split
      · exact Nat.le_refl _
      · rename_i digits after _ hspan
        simp only [hspan] at hlength
        simp only [List.length_cons]
        omega
    · exact Nat.le_refl _
  · exact Nat.le_refl _

theorem scanWhole?_length_lt {t : Text} {whole : List Char} {after : Text}
    (h : scanWhole? t = some (whole, after)) : after.length < t.length := by
  unfold scanWhole? at h
  split at h
  · simp only [Option.some.injEq, Prod.mk.injEq] at h
    simp [← h.2]
  · have hlength := Text.spanDigits_length t
    split at h
    · cases h
    · rename_i digits rest hnonempty hspan
      simp only [Option.some.injEq, Prod.mk.injEq] at h
      rw [hspan, h.1, h.2] at hlength
      have : whole ≠ [] := fun hnil => hnonempty (h.1.trans hnil)
      have := List.length_pos_iff.mpr this
      simp only at hlength
      omega

/-- A numeral takes at least one code point. -/
theorem scan?_length_lt {t : Text} {n : Numeral} {after : Text}
    (h : scan? t = some (n, after)) : after.length < t.length := by
  unfold scan? at h
  split at h
  rename_i negative unsigned hsign
  have hunsigned : unsigned.length ≤ t.length := by
    split at hsign <;> cases hsign <;> simp
  split at h
  · cases h
  · rename_i whole afterWhole hwhole
    have hlt := scanWhole?_length_lt hwhole
    have hfraction := scanFraction_length_le afterWhole
    have hexponent := scanExponent_length_le (scanFraction afterWhole).2
    simp only [Option.some.injEq, Prod.mk.injEq] at h
    rw [← h.2]
    omega

end Numeral

end SecurityRules
