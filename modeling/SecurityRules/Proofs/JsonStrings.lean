import Mathlib.Data.List.Chain
import SecurityRules.Json.Token
import SecurityRules.Json.Writer

/-!
# A written string is read back

A string is written in ASCII, so a character beyond the first plane goes out as
two escapes, the halves of its surrogate pair, and has to come back as one
character. A lone half goes out as one escape and has to come back alone. The
two can be told apart as long as no two halves of a pair stand side by side in
the string, and `Joined` says so. Reading joins halves wherever it can, so every
string that was read is `Joined`, and a `Joined` string survives being written.

In between stand the code units: writing divides each code point into its
`halves` and escapes them one by one, scanning gives the code units back, and
joining undoes the division.
-/

namespace SecurityRules

namespace CodePoint

theorem ofNat_toNat (c : CodePoint) : ofNat c.toNat = c := by
  cases c with
  | scalar c =>
      have hvalid : (scalar c).toNat.isValidChar := c.valid
      rw [ofNat, dif_pos hvalid]
      rfl
  | surrogate half =>
      have hlt := half.isLt
      have hinvalid : ¬ (surrogate half).toNat.isValidChar := by
        simp only [Nat.isValidChar, toNat]
        omega
      have hhalf : 0xD800 ≤ (surrogate half).toNat ∧ (surrogate half).toNat < 0xE000 := by
        simp only [toNat]
        omega
      rw [ofNat, dif_neg hinvalid, dif_pos hhalf]
      simp [toNat]

theorem toNat_ofNat {n : Nat} (h : n < 0x110000) : (ofNat n).toNat = n := by
  by_cases hvalid : n.isValidChar
  · rw [ofNat, dif_pos hvalid]
    rfl
  · have hhalf : 0xD800 ≤ n ∧ n < 0xE000 := by
      simp only [Nat.isValidChar] at hvalid
      omega
    rw [ofNat, dif_neg hvalid, dif_pos hhalf]
    simp only [toNat]
    omega

theorem ofNat_of_le {n : Nat} (h : 0x110000 ≤ n) : ofNat n = .scalar '\uFFFD' := by
  have hinvalid : ¬ n.isValidChar := by
    simp only [Nat.isValidChar]
    omega
  have hnone : ¬ (0xD800 ≤ n ∧ n < 0xE000) := by omega
  rw [ofNat, dif_neg hinvalid, dif_neg hnone]

theorem ofNat_surrogate {n : Nat} (h : n < 0x800) : ofNat (0xD800 + n) = .surrogate ⟨n, h⟩ :=
  ofNat_toNat (.surrogate ⟨n, h⟩)

theorem toNat_lt (c : CodePoint) : c.toNat < 0x110000 := by
  cases c with
  | scalar c =>
      have hvalid : c.toNat.isValidChar := c.valid
      simp only [Nat.isValidChar] at hvalid
      simp only [toNat]
      omega
  | surrogate half =>
      have := half.isLt
      simp only [toNat]
      omega

/-- Whether two code points are the halves of one surrogate pair. -/
def Pairs : CodePoint → CodePoint → Prop
  | .surrogate high, .surrogate low => high.val < 0x400 ∧ 0x400 ≤ low.val
  | _, _ => False

/-- The code units of a code point: a character beyond the first plane has two. -/
def halves (c : CodePoint) : Text :=
  if c.toNat < 0x10000 then [c]
  else
    let n := c.toNat - 0x10000
    [.ofNat (0xD800 + n / 0x400), .ofNat (0xDC00 + n % 0x400)]

end CodePoint

/-- A text in which no two halves of a surrogate pair stand side by side. -/
def Text.Joined (t : Text) : Prop :=
  t.IsChain fun a b => ¬ a.Pairs b

namespace Json

/-! ## Escapes -/

theorem hexDigit?_digitChar : ∀ d < 16, hexDigit? (.scalar d.digitChar) = some d := by
  decide

theorem ofHex_four {n : Nat} (h : n < 0x10000) :
    Text.ofHex 4 n = Text.ofChars [(n / 0x1000).digitChar, (n / 0x100 % 16).digitChar,
      (n / 0x10 % 16).digitChar, (n % 16).digitChar] := by
  have hstep : ∀ k, 16 ≤ k → Nat.toDigits 16 k = Nat.toDigits 16 (k / 16) ++ [(k % 16).digitChar] :=
    fun k hk => Nat.toDigits_of_base_le (by decide) hk
  have hone : ∀ k, k < 16 → Nat.toDigits 16 k = [k.digitChar] :=
    fun k hk => Nat.toDigits_of_lt_base hk
  have hzero : Nat.digitChar 0 = '0' := rfl
  unfold Text.ofHex
  rcases Nat.lt_or_ge n 0x10 with h1 | h1
  · rw [hone n h1, show n / 0x1000 = 0 by omega, show n / 0x100 % 16 = 0 by omega,
      show n / 0x10 % 16 = 0 by omega, show n % 16 = n by omega, hzero]
    rfl
  rcases Nat.lt_or_ge n 0x100 with h2 | h2
  · rw [hstep n h1, hone (n / 16) (by omega), show n / 0x1000 = 0 by omega,
      show n / 0x100 % 16 = 0 by omega, show n / 0x10 % 16 = n / 16 by omega, hzero]
    rfl
  rcases Nat.lt_or_ge n 0x1000 with h3 | h3
  · rw [hstep n h1, hstep (n / 16) (by omega), hone (n / 16 / 16) (by omega),
      show n / 0x1000 = 0 by omega, show n / 0x100 % 16 = n / 16 / 16 by omega, hzero]
    rfl
  · rw [hstep n h1, hstep (n / 16) (by omega), hstep (n / 16 / 16) (by omega),
      hone (n / 16 / 16 / 16) (by omega), show n / 0x1000 = n / 16 / 16 / 16 by omega,
      show n / 0x100 % 16 = n / 16 / 16 % 16 by omega]
    rfl

theorem hexCodePoint?_digits {n : Nat} (h : n < 0x10000) :
    hexCodePoint? (.scalar (n / 0x1000).digitChar) (.scalar (n / 0x100 % 16).digitChar)
      (.scalar (n / 0x10 % 16).digitChar) (.scalar (n % 16).digitChar) = some (.ofNat n) := by
  unfold hexCodePoint?
  rw [hexDigit?_digitChar _ (by omega), hexDigit?_digitChar _ (by omega),
    hexDigit?_digitChar _ (by omega), hexDigit?_digitChar _ (by omega)]
  simp only [Option.some.injEq]
  congr 1
  omega

theorem scanString_fourDigits {a b x y point : CodePoint}
    (hpoint : hexCodePoint? a b x y = some point) {t inside rest : Text}
    (ht : scanString t = .closed inside rest) :
    scanString (.scalar '\\' :: .scalar 'u' :: a :: b :: x :: y :: t)
      = .closed (point :: inside) rest := by
  cases t with
  | nil => simp [scanString] at ht
  | cons next t =>
      rw [scanString]
      simp only [CodePoint.scalar.injEq, Char.reduceEq, if_false, if_true, hpoint, ht]
      rfl

/-- An escape of four digits is read as the code point with their number. -/
theorem scanString_unicodeEscape {n : Nat} (h : n < 0x10000) {t inside rest : Text}
    (ht : scanString t = .closed inside rest) :
    scanString (unicodeEscape n ++ t) = .closed (.ofNat n :: inside) rest := by
  rw [unicodeEscape, ofHex_four h]
  exact scanString_fourDigits (hexCodePoint?_digits h) ht

theorem scanString_shortEscape {e : CodePoint} {point : Char} (he : shortEscape? e = some point)
    {t inside rest : Text} (ht : scanString t = .closed inside rest) :
    scanString (.scalar '\\' :: e :: t) = .closed (.scalar point :: inside) rest := by
  have hu : e ≠ .scalar 'u' := by
    rintro rfl
    cases he
  rw [scanString.eq_def]
  simp only [CodePoint.scalar.injEq, Char.reduceEq, if_false, if_true, hu, he, ht]
  rfl

theorem scanString_plain {c : CodePoint} (hquote : c ≠ .scalar '"') (hslash : c ≠ .scalar '\\')
    (hc : 0x20 ≤ c.toNat) {t inside rest : Text} (ht : scanString t = .closed inside rest) :
    scanString (c :: t) = .closed (c :: inside) rest := by
  rw [scanString.eq_def]
  simp only [hquote, hslash, if_false, if_neg (show ¬ c.toNat < 0x20 by omega), ht]
  rfl

/-- Whatever code point is written into a string, reading gives its code units. -/
theorem scanString_escaped (c : CodePoint) {t inside rest : Text}
    (ht : scanString t = .closed inside rest) :
    scanString (escaped c ++ t) = .closed (c.halves ++ inside) rest := by
  have hlt := c.toNat_lt
  unfold escaped
  split
  · exact scanString_shortEscape rfl ht
  · exact scanString_shortEscape rfl ht
  · exact scanString_shortEscape rfl ht
  · exact scanString_shortEscape rfl ht
  · exact scanString_shortEscape rfl ht
  · exact scanString_shortEscape rfl ht
  · exact scanString_shortEscape rfl ht
  · -- written as it is, as one escape of four digits, or as two
    next hquote hslash _ _ _ _ _ =>
      split
      · next hprint =>
          rw [CodePoint.halves, if_pos (by omega)]
          exact scanString_plain hquote hslash hprint.1 ht
      · split
        · next hplane =>
            rw [CodePoint.halves, if_pos hplane]
            have := scanString_unicodeEscape hplane ht
            rwa [CodePoint.ofNat_toNat] at this
        · next hplane =>
            rw [CodePoint.halves, if_neg hplane, List.append_assoc]
            exact scanString_unicodeEscape (by omega) (scanString_unicodeEscape (by omega) ht)

theorem scanString_writeString (s rest : Text) :
    scanString (s.flatMap escaped ++ .scalar '"' :: rest)
      = .closed (s.flatMap CodePoint.halves) rest := by
  induction s with
  | nil =>
      rw [List.flatMap_nil, List.nil_append, scanString.eq_def]
      rfl
  | cons c s ih =>
      rw [List.flatMap_cons, List.append_assoc, List.flatMap_cons]
      exact scanString_escaped c ih

/-! ## Halves -/

theorem joinHalves_cons {c : CodePoint} {t : Text} (h : ∀ d ∈ t.head?, ¬ c.Pairs d) :
    joinHalves (c :: t) = c :: joinHalves t := by
  conv_lhs => rw [joinHalves.eq_def]
  split
  · next high low rest heq =>
      cases heq
      exact if_neg (h (.surrogate low) rfl)
  · next d rest _ heq =>
      cases heq
      rfl
  · next heq => cases heq

theorem joinHalves_pair {c : CodePoint} (hc : 0x10000 ≤ c.toNat) (t : Text) :
    joinHalves (c.halves ++ t) = c :: joinHalves t := by
  have hlt := c.toNat_lt
  have hnat := c.ofNat_toNat
  rw [CodePoint.halves, if_neg (by omega)]
  generalize hn : c.toNat - 0x10000 = n
  simp only
  have hhigh : n / 0x400 < 0x800 := by omega
  have hlow : 0x400 + n % 0x400 < 0x800 := by omega
  rw [show 0xDC00 + n % 0x400 = 0xD800 + (0x400 + n % 0x400) by omega,
    CodePoint.ofNat_surrogate hhigh, CodePoint.ofNat_surrogate hlow]
  simp only [List.cons_append, List.nil_append]
  rw [joinHalves.eq_def]
  simp only
  rw [if_pos (by omega), show 0x10000 + n / 0x400 * 0x400 + (0x400 + n % 0x400 - 0x400)
    = c.toNat by omega, hnat]

theorem head?_halves_not_pairs (c : CodePoint) {d : CodePoint} {t : Text}
    (h : ∀ e ∈ (d :: t).head?, ¬ c.Pairs e) :
    ∀ e ∈ ((d :: t).flatMap CodePoint.halves).head?, ¬ c.Pairs e := by
  have hlt := d.toNat_lt
  intro e he
  rw [List.flatMap_cons, CodePoint.halves] at he
  split at he
  · exact h e he
  · next hge =>
      simp only [List.cons_append, List.head?_cons, Option.mem_some_iff] at he
      rw [CodePoint.ofNat_surrogate (by omega)] at he
      subst he
      cases c with
      | scalar _ => exact id
      | surrogate high =>
          simp only [CodePoint.Pairs]
          omega

/-- Joining undoes the division into code units. -/
theorem joinHalves_halves {s : Text} (h : s.Joined) :
    joinHalves (s.flatMap CodePoint.halves) = s := by
  induction s with
  | nil => rfl
  | cons c s ih =>
      obtain ⟨hnext, htail⟩ := List.isChain_cons.mp h
      have := ih htail
      rw [List.flatMap_cons]
      rcases Nat.lt_or_ge c.toNat 0x10000 with hlt | hge
      · rw [CodePoint.halves, if_pos hlt, List.singleton_append, joinHalves_cons, this]
        cases s with
        | nil => simp
        | cons d t => exact head?_halves_not_pairs c hnext
      · rw [joinHalves_pair hge, this]

theorem exists_scalar_ofNat {n : Nat} (h : 0x10000 ≤ n) : ∃ c, CodePoint.ofNat n = .scalar c := by
  by_cases hvalid : n.isValidChar
  · exact ⟨_, dif_pos hvalid⟩
  · have hnone : ¬ (0xD800 ≤ n ∧ n < 0xE000) := by omega
    exact ⟨_, (dif_neg hvalid).trans (dif_neg hnone)⟩

theorem head?_joinHalves_not_pairs {c : CodePoint} {t : Text} (h : ∀ d ∈ t.head?, ¬ c.Pairs d) :
    ∀ d ∈ (joinHalves t).head?, ¬ c.Pairs d := by
  rw [joinHalves.eq_def]
  split
  · next high low rest =>
      split
      · obtain ⟨x, hx⟩ := exists_scalar_ofNat
          (show 0x10000 ≤ 0x10000 + high.val * 0x400 + (low.val - 0x400) by omega)
        rw [hx]
        rintro d ⟨⟩
        cases c <;> exact id
      · exact h
  · exact h
  · simp

/-- What is read as a string has its halves joined. -/
theorem joined_joinHalves (t : Text) : (joinHalves t).Joined := by
  fun_induction joinHalves t with
  | case1 high low rest hpair ih =>
      refine List.isChain_cons.mpr ⟨?_, ih⟩
      obtain ⟨x, hx⟩ := exists_scalar_ofNat
        (show 0x10000 ≤ 0x10000 + high.val * 0x400 + (low.val - 0x400) by omega)
      rw [hx]
      exact fun d _ => id
  | case2 high low rest hpair ih =>
      refine List.isChain_cons.mpr ⟨head?_joinHalves_not_pairs ?_, ih⟩
      rintro d ⟨⟩
      exact hpair
  | case3 c rest hc ih =>
      refine List.isChain_cons.mpr ⟨head?_joinHalves_not_pairs fun d hd => ?_, ih⟩
      cases c with
      | scalar _ => exact id
      | surrogate high =>
          cases d with
          | scalar _ => exact id
          | surrogate low =>
              obtain ⟨more, rfl⟩ : ∃ more, rest = .surrogate low :: more := by
                cases rest with
                | nil => cases hd
                | cons e more =>
                    cases hd
                    exact ⟨more, rfl⟩
              -- two halves in a row are the case before this one
              exact (hc _ _ _ rfl rfl).elim
  | case4 => exact List.isChain_nil

end Json
end SecurityRules
