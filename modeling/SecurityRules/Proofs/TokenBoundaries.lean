import SecurityRules.Proofs.JsonReadBack

/-!
# Where a token ends

A scanner takes a token off the front of a text. What it takes stands on its own:
with another text behind it, the same token is taken, as long as a number does
not run on. `exists_of_scanLexeme` says this of every token that is neither
broken nor stray, and adds which code points the token may hold.

On the way it is said in full when a numeral is an integer: `scan?_integer_iff`.
-/

namespace SecurityRules

/-! ## Digits -/

namespace Text

theorem spanDigits_spec (t : Text) :
    t = ofChars t.spanDigits.1 ++ t.spanDigits.2 ∧ t.spanDigits.2.NoDigitAhead := by
  fun_induction spanDigits t with
  | case1 c rest hdigit digits after hspan ih =>
      rw [hspan] at ih
      exact ⟨congrArg (.scalar c :: ·) ih.1, ih.2⟩
  | case2 c rest hdigit =>
      refine ⟨rfl, ?_⟩
      rintro d ⟨⟩
      exact Bool.eq_false_iff.mpr hdigit
  | case3 t hscalar =>
      refine ⟨rfl, fun c hc => ?_⟩
      cases t with
      | nil => cases hc
      | cons d rest =>
          cases hc
          exact absurd rfl (hscalar c rest)

theorem spanDigits_eq_nil_iff {t : Text} : t.spanDigits.1 = [] ↔ t.NoDigitAhead := by
  constructor
  · intro h
    obtain ⟨heq, hrest⟩ := t.spanDigits_spec
    rw [h] at heq
    rwa [heq]
  · exact fun h => by rw [spanDigits_of_noDigit h]

theorem noDigitAhead_cons_iff {c : Char} {rest : Text} :
    NoDigitAhead (.scalar c :: rest) ↔ c.isDigit = false := by
  constructor
  · exact fun h => h c rfl
  · rintro h d ⟨⟩
    exact h

/-- Whether a text would make an integer in front of it another number: by a
digit, by a fraction or by an exponent. -/
inductive ContinuesInteger : Text → Prop
  | digit {d : Char} (hd : d.isDigit) (rest : Text) : ContinuesInteger (.scalar d :: rest)
  | fraction {d : Char} (hd : d.isDigit) (rest : Text) :
      ContinuesInteger (.scalar '.' :: .scalar d :: rest)
  | exponent {mark d : Char} (hmark : mark = 'e' ∨ mark = 'E') (hd : d.isDigit) (rest : Text) :
      ContinuesInteger (.scalar mark :: .scalar d :: rest)
  | signedExponent {mark sign d : Char} (hmark : mark = 'e' ∨ mark = 'E')
      (hsign : sign = '+' ∨ sign = '-') (hd : d.isDigit) (rest : Text) :
      ContinuesInteger (.scalar mark :: .scalar sign :: .scalar d :: rest)

theorem exists_digit_of_not_noDigitAhead {t : Text} (h : ¬ t.NoDigitAhead) :
    ∃ d rest, t = .scalar d :: rest ∧ d.isDigit := by
  simp only [NoDigitAhead, not_forall, Bool.not_eq_false] at h
  obtain ⟨d, hhead, hd⟩ := h
  obtain ⟨rest, rfl⟩ := List.head?_eq_some_iff.mp hhead
  exact ⟨d, rest, rfl, hd⟩

end Text

/-! ## Numerals -/

namespace Numeral

theorem scanWhole?_eq_some {t rest : Text} {whole : List Char}
    (h : scanWhole? t = some (whole, rest)) :
    t = Text.ofChars whole ++ rest ∧ IsDigits whole
      ∧ (whole = ['0'] ∨ whole.head? ≠ some '0' ∧ rest.NoDigitAhead) := by
  unfold scanWhole? at h
  split at h
  · cases h
    exact ⟨rfl, isDigits_toDigits 0, Or.inl rfl⟩
  · next hzero =>
      obtain ⟨heq, hrest⟩ := t.spanDigits_spec
      have hdigits : ∀ c ∈ t.spanDigits.1, c.isDigit := fun _ => Text.isDigit_of_mem_spanDigits
      split at h
      · cases h
      · next digits after hne hspan =>
          cases h
          rw [hspan] at heq hrest hdigits
          refine ⟨heq, ⟨hne, hdigits⟩, Or.inr ⟨fun hhead => ?_, hrest⟩⟩
          obtain ⟨more, hmore⟩ := List.head?_eq_some_iff.mp hhead
          rw [hmore] at heq
          exact hzero _ heq

theorem scanFraction_spec (t : Text) :
    t = fractionSpelling (scanFraction t).1 ++ (scanFraction t).2
      ∧ ∀ digits ∈ (scanFraction t).1, IsDigits digits := by
  unfold scanFraction
  split
  · next rest =>
      obtain ⟨heq, -⟩ := Text.spanDigits_spec rest
      have hdigits : ∀ c ∈ (Text.spanDigits rest).1, c.isDigit :=
        fun _ => Text.isDigit_of_mem_spanDigits
      split
      · exact ⟨rfl, nofun⟩
      · next digits after hne hspan =>
          rw [hspan] at heq hdigits
          refine ⟨congrArg (.scalar '.' :: ·) heq, ?_⟩
          rintro _ ⟨⟩
          exact ⟨hne, hdigits⟩
  · exact ⟨rfl, nofun⟩

theorem scanFraction_eq_none_iff {t : Text} :
    (scanFraction t).1 = none
      ↔ ∀ rest : Text, t = .scalar '.' :: rest → Text.NoDigitAhead rest := by
  unfold scanFraction
  split
  · next rest =>
      have hrest := Text.spanDigits_eq_nil_iff (t := rest)
      split
      · next hspan =>
          rw [hspan] at hrest
          refine ⟨fun _ more heq => ?_, fun _ => rfl⟩
          cases heq
          exact hrest.mp rfl
      · next hne hspan =>
          rw [hspan] at hrest
          exact ⟨nofun, fun h => absurd (hrest.mpr (h rest rfl)) hne⟩
  · next hpoint => exact ⟨fun _ rest heq => absurd heq (hpoint rest), fun _ => rfl⟩

theorem scanExponent_eq_none_iff {t : Text} :
    (scanExponent t).1 = none
      ↔ ∀ (mark : Char) (rest : Text), t = .scalar mark :: rest → mark = 'e' ∨ mark = 'E' →
        Text.NoDigitAhead (scanSign rest).2 := by
  unfold scanExponent
  split
  · next c rest =>
      have hrest := Text.spanDigits_eq_nil_iff (t := (scanSign rest).2)
      split
      · next hmark =>
          simp only
          split
          · next hspan =>
              rw [hspan] at hrest
              refine ⟨fun _ mark more heq _ => ?_, fun _ => rfl⟩
              cases heq
              exact hrest.mp rfl
          · next hne hspan =>
              rw [hspan] at hrest
              exact ⟨nofun, fun h => absurd (hrest.mpr (h c rest rfl hmark)) hne⟩
      · next hmark =>
          refine ⟨fun _ mark more heq h => ?_, fun _ => rfl⟩
          cases heq
          exact absurd h hmark
  · next hscalar => exact ⟨fun _ mark rest heq => absurd heq (hscalar mark rest), fun _ => rfl⟩

theorem scanFraction_of_none {t : Text} (h : (scanFraction t).1 = none) :
    scanFraction t = (none, t) := by
  have heq := (scanFraction_spec t).1
  rw [h] at heq
  exact Prod.ext h heq.symm

theorem scanExponent_of_none {t : Text} (h : (scanExponent t).1 = none) :
    scanExponent t = (none, t) := by
  unfold scanExponent at h ⊢
  split at h
  · split at h
    · next hmark =>
        rw [if_pos hmark]
        simp only at h ⊢
        split at h
        · rfl
        · cases h
    · next hmark => rw [if_neg hmark]
  · rfl

/-- A digit is no sign. -/
theorem scanSign_digit {d : Char} (hd : d.isDigit) (rest : Text) :
    scanSign (.scalar d :: rest) = (false, .scalar d :: rest) := by
  unfold scanSign
  split
  · next heq =>
      cases heq
      cases hd
  · next heq =>
      cases heq
      cases hd
  · rfl

/-- What an integer does not run on into is what the scanners leave behind it. -/
theorem not_continuesInteger_iff {t : Text} :
    ¬ t.ContinuesInteger
      ↔ t.NoDigitAhead ∧ (scanFraction t).1 = none ∧ (scanExponent t).1 = none := by
  constructor
  · intro h
    refine ⟨?_, scanFraction_eq_none_iff.mpr ?_, scanExponent_eq_none_iff.mpr ?_⟩
    · by_contra hdigit
      obtain ⟨d, rest, rfl, hd⟩ := Text.exists_digit_of_not_noDigitAhead hdigit
      exact h (.digit hd rest)
    · rintro rest rfl
      by_contra hdigit
      obtain ⟨d, more, rfl, hd⟩ := Text.exists_digit_of_not_noDigitAhead hdigit
      exact h (.fraction hd more)
    · -- the digit may stand right behind the mark or behind a sign
      rintro mark rest rfl hmark
      by_contra hdigit
      obtain ⟨d, more, hsign, hd⟩ := Text.exists_digit_of_not_noDigitAhead hdigit
      unfold scanSign at hsign
      split at hsign
      · cases hsign
        exact h (.signedExponent hmark (Or.inr rfl) hd more)
      · cases hsign
        exact h (.signedExponent hmark (Or.inl rfl) hd more)
      · cases hsign
        exact h (.exponent hmark hd more)
  · rintro ⟨hdigit, hfraction, hexponent⟩ hcontinues
    rw [scanFraction_eq_none_iff] at hfraction
    rw [scanExponent_eq_none_iff] at hexponent
    cases hcontinues with
    | digit hd rest => simp [Text.noDigitAhead_cons_iff.mp hdigit] at hd
    | fraction hd rest => simp [Text.noDigitAhead_cons_iff.mp (hfraction _ rfl)] at hd
    | @exponent mark d hmark hd rest =>
        have hnone := hexponent mark _ rfl hmark
        rw [scanSign_digit hd] at hnone
        simp [Text.noDigitAhead_cons_iff.mp hnone] at hd
    | @signedExponent mark sign d hmark hsign hd rest =>
        have hnone := hexponent mark _ rfl hmark
        rcases hsign with rfl | rfl <;> simp [Text.noDigitAhead_cons_iff.mp hnone] at hd

/-- A numeral is read part by part. -/
theorem scan?_eq_some_iff {t rest : Text} {n : Numeral} :
    scan? t = some (n, rest) ↔ ∃ unsigned afterWhole afterFraction,
      t = signText n.negative ++ unsigned
        ∧ scanWhole? unsigned = some (n.whole, afterWhole)
        ∧ scanFraction afterWhole = (n.fraction, afterFraction)
        ∧ scanExponent afterFraction = (n.exponent, rest) := by
  unfold scan?
  constructor
  · intro h
    split at h
    next negative unsigned hsign =>
    split at h
    · cases h
    · next whole afterWhole hwhole =>
        cases h
        refine ⟨unsigned, afterWhole, _, ?_, hwhole, rfl, rfl⟩
        split at hsign <;> cases hsign <;> rfl
  · rintro ⟨unsigned, afterWhole, afterFraction, rfl, hwhole, hfraction, hexponent⟩
    obtain ⟨negative, whole, fraction, exponent⟩ := n
    simp only at hwhole hfraction hexponent
    split
    next negative' unsigned' hsign =>
    obtain ⟨rfl, rfl⟩ : negative' = negative ∧ unsigned' = unsigned := by
      cases negative with
      | true =>
          cases hsign
          exact ⟨rfl, rfl⟩
      | false =>
          split at hsign
          · next more heq =>
              have hminus : unsigned = .scalar '-' :: more := heq
              rw [hminus] at hwhole
              cases hwhole
          · cases hsign
            exact ⟨rfl, rfl⟩
    simp only [hwhole, hfraction, hexponent]

/-- When a text starts with an integer of given digits. -/
theorem scan?_integer_iff {t rest : Text} {negative : Bool} {digits : List Char}
    (hlead : digits.head? ≠ some '0') :
    scan? t = some (⟨negative, digits, none, none⟩, rest)
      ↔ t = signText negative ++ (Text.ofChars digits ++ rest) ∧ IsDigits digits
        ∧ ¬ rest.ContinuesInteger := by
  rw [scan?_eq_some_iff, not_continuesInteger_iff]
  constructor
  · rintro ⟨unsigned, afterWhole, afterFraction, rfl, hwhole, hfraction, hexponent⟩
    obtain ⟨rfl, hdigits, hzero⟩ := scanWhole?_eq_some hwhole
    cases (scanFraction_of_none (congrArg Prod.fst hfraction)).symm.trans hfraction
    cases (scanExponent_of_none (congrArg Prod.fst hexponent)).symm.trans hexponent
    have hrest : Text.NoDigitAhead rest := by
      rcases hzero with hzero | ⟨-, hrest⟩
      · exact absurd (congrArg List.head? hzero) hlead
      · exact hrest
    exact ⟨rfl, hdigits, hrest, congrArg Prod.fst hfraction, congrArg Prod.fst hexponent⟩
  · rintro ⟨rfl, hdigits, hrest, hfraction, hexponent⟩
    exact ⟨_, rest, rest, rfl, scanWhole?_ofChars hdigits (Or.inr hlead) hrest,
      scanFraction_of_none hfraction, scanExponent_of_none hexponent⟩

/-! ## What a scanner takes -/

/-- A code point that a numeral may hold. -/
def InNumeral (c : CodePoint) : Prop :=
  ∃ d, c = .scalar d ∧ (d.isDigit ∨ d ∈ ['-', '+', '.', 'e', 'E'])

theorem not_inNumeral_bracket : ¬ InNumeral (.scalar '[') := by
  rintro ⟨d, ⟨⟩, hd⟩
  exact absurd hd (by decide)

theorem inNumeral_of_mem_ofChars {digits : List Char} (h : ∀ c ∈ digits, c.isDigit) :
    ∀ c ∈ Text.ofChars digits, InNumeral c := by
  intro c hc
  obtain ⟨d, hd, rfl⟩ := List.mem_map.mp hc
  exact ⟨d, rfl, Or.inl (h d hd)⟩

theorem inNumeral_signText (negative : Bool) : ∀ c ∈ signText negative, InNumeral c := by
  intro c hc
  cases negative with
  | false => cases hc
  | true => exact ⟨'-', List.mem_singleton.mp hc, Or.inr (by decide)⟩

theorem inNumeral_fractionSpelling {fraction : Option (List Char)}
    (h : ∀ digits ∈ fraction, IsDigits digits) :
    ∀ c ∈ fractionSpelling fraction, InNumeral c := by
  intro c hc
  cases fraction with
  | none => cases hc
  | some digits =>
      rcases List.mem_cons.mp hc with rfl | hc
      · exact ⟨'.', rfl, Or.inr (by decide)⟩
      · exact inNumeral_of_mem_ofChars (h digits rfl).2 c hc

theorem exists_of_scanSign (t : Text) :
    ∃ taken, t = taken ++ (scanSign t).2 ∧ (∀ c ∈ taken, InNumeral c)
      ∧ ∀ {d : Char} (_ : d.isDigit) (rest : Text),
        scanSign (taken ++ .scalar d :: rest) = ((scanSign t).1, .scalar d :: rest) := by
  fun_cases scanSign t with
  | case1 rest =>
      refine ⟨[.scalar '-'], rfl, ?_, fun _ _ => rfl⟩
      rintro _ (_ | ⟨_, ⟨⟩⟩)
      exact ⟨'-', rfl, Or.inr (by decide)⟩
  | case2 rest =>
      refine ⟨[.scalar '+'], rfl, ?_, fun _ _ => rfl⟩
      rintro _ (_ | ⟨_, ⟨⟩⟩)
      exact ⟨'+', rfl, Or.inr (by decide)⟩
  | case3 => exact ⟨[], rfl, List.forall_mem_nil _, scanSign_digit⟩

theorem scanExponent_eq_some {t rest : Text} {power : Bool × List Char}
    (h : scanExponent t = (some power, rest)) :
    ∃ mark more, (mark = 'e' ∨ mark = 'E') ∧ t = .scalar mark :: more
      ∧ scanSign more = (power.1, Text.ofChars power.2 ++ rest) ∧ IsDigits power.2 := by
  unfold scanExponent at h
  split at h
  · next mark more =>
      split at h
      · next hmark =>
          simp only at h
          obtain ⟨heq, -⟩ := Text.spanDigits_spec (scanSign more).2
          have hdigits : ∀ c ∈ (scanSign more).2.spanDigits.1, c.isDigit :=
            fun _ => Text.isDigit_of_mem_spanDigits
          split at h
          · cases h
          · next digits after hne hspan =>
              cases h
              rw [hspan] at heq hdigits
              exact ⟨mark, more, hmark, rfl, Prod.ext rfl heq, hne, hdigits⟩
      · cases h
  · cases h

theorem exists_of_scanExponent {t rest : Text} {exponent : Option (Bool × List Char)}
    (h : scanExponent t = (exponent, rest)) :
    ∃ taken, t = taken ++ rest ∧ (∀ c ∈ taken, InNumeral c)
      ∧ (∀ c, taken.head? = some c → c = .scalar 'e' ∨ c = .scalar 'E')
      ∧ ∀ {rest : Text}, rest.EndsNumeral → scanExponent (taken ++ rest) = (exponent, rest) := by
  cases exponent with
  | none =>
      cases (scanExponent_of_none (congrArg Prod.fst h)).symm.trans h
      have hnone : ∀ power ∈ (none : Option (Bool × List Char)), IsDigits power.2 := by simp
      exact ⟨[], rfl, nofun, nofun, fun hrest => scanExponent_spelling hnone hrest⟩
  | some power =>
      obtain ⟨negative, digits⟩ := power
      obtain ⟨mark, more, hmark, rfl, hsign, hne, hdigits⟩ := scanExponent_eq_some h
      obtain ⟨sign, hmore, hinsign, hstable⟩ := exists_of_scanSign more
      rw [hsign] at hmore hstable
      refine ⟨.scalar mark :: (sign ++ Text.ofChars digits), by simp [hmore], ?_, ?_, ?_⟩
      · intro c hc
        rcases List.mem_cons.mp hc with rfl | hc
        · exact ⟨mark, rfl, Or.inr (by rcases hmark with rfl | rfl <;> decide)⟩
        · rcases List.mem_append.mp hc with hc | hc
          · exact hinsign c hc
          · exact inNumeral_of_mem_ofChars hdigits c hc
      · rintro _ ⟨⟩
        exact hmark.imp (congrArg _) (congrArg _)
      · intro rest hrest
        cases digits with
        | nil => exact absurd rfl hne
        | cons d digits =>
            have hspan := Text.spanDigits_append hdigits hrest.noDigitAhead
            have hsigned := hstable (hdigits d List.mem_cons_self) (Text.ofChars digits ++ rest)
            rw [List.cons_append, List.append_assoc, scanExponent, if_pos hmark]
            rw [show Text.ofChars (d :: digits) ++ rest = .scalar d :: (Text.ofChars digits ++ rest)
              from rfl] at hspan ⊢
            rw [hsigned]
            simp only [hspan]

/-- What is taken as a numeral stands on its own. -/
theorem exists_of_scan? {t rest : Text} {n : Numeral} (h : scan? t = some (n, rest)) :
    ∃ taken, t = taken ++ rest ∧ (∀ c ∈ taken, InNumeral c)
      ∧ ∀ {rest : Text}, rest.EndsNumeral → scan? (taken ++ rest) = some (n, rest) := by
  obtain ⟨unsigned, afterWhole, afterFraction, rfl, hwhole, hfraction, hexponent⟩ :=
    scan?_eq_some_iff.mp h
  obtain ⟨rfl, hdigits, hlead⟩ := scanWhole?_eq_some hwhole
  have hspec := scanFraction_spec afterWhole
  simp only [hfraction] at hspec
  obtain ⟨rfl, hfractionDigits⟩ := hspec
  obtain ⟨power, rfl, hinpower, hmark, hstable⟩ := exists_of_scanExponent hexponent
  refine ⟨signText n.negative ++ (Text.ofChars n.whole ++ (fractionSpelling n.fraction ++ power)),
    by simp, ?_, ?_⟩
  · rw [List.forall_mem_append, List.forall_mem_append, List.forall_mem_append]
    exact ⟨inNumeral_signText _, inNumeral_of_mem_ofChars hdigits.2,
      inNumeral_fractionSpelling hfractionDigits, hinpower⟩
  · intro rest hrest
    have hend : Text.NoDigitAhead (power ++ rest)
        ∧ (power ++ rest).head? ≠ some (.scalar '.') := by
      cases power with
      | nil => exact ⟨hrest.noDigitAhead, fun hpoint => (hrest '.' hpoint).2 (by decide)⟩
      | cons c power =>
          rcases hmark c rfl with rfl | rfl
          · exact ⟨Text.noDigitAhead_cons_iff.mpr rfl, by simp⟩
          · exact ⟨Text.noDigitAhead_cons_iff.mpr rfl, by simp⟩
    have hwhole := scanWhole?_ofChars hdigits (hlead.imp_right And.left)
      (noDigitAhead_fractionSpelling n.fraction hend.1)
    have hfraction := scanFraction_spelling hfractionDigits hend.1 hend.2
    exact scan?_eq_some_iff.mpr
      ⟨_, _, _, by simp only [List.append_assoc], hwhole, hfraction, hstable hrest⟩

theorem exists_digit_of_scan? {t rest : Text} {n : Numeral} (h : scan? t = some (n, rest)) :
    ∃ d more, d.isDigit ∧ (t = .scalar d :: more ∨ t = .scalar '-' :: .scalar d :: more) := by
  obtain ⟨unsigned, afterWhole, -, rfl, hwhole, -⟩ := scan?_eq_some_iff.mp h
  obtain ⟨rfl, ⟨hne, hdigits⟩, -⟩ := scanWhole?_eq_some hwhole
  cases hcs : n.whole with
  | nil => exact absurd hcs hne
  | cons d digits =>
      refine ⟨d, Text.ofChars digits ++ afterWhole, hdigits d (by rw [hcs]; simp), ?_⟩
      cases n.negative with
      | true => exact Or.inr rfl
      | false => exact Or.inl rfl

end Numeral

/-! ## Strings and words -/

namespace Json

theorem StringScan.cons_eq_closed_iff {c : CodePoint} {scan : StringScan} {inside rest : Text} :
    scan.cons c = .closed inside rest ↔ ∃ more, scan = .closed more rest ∧ inside = c :: more := by
  cases scan with
  | closed more after => simp [cons, eq_comm, and_comm]
  | unterminated => simp [cons]
  | broken fault left => simp [cons]

/-- What is taken as a string stands on its own. -/
theorem exists_of_scanString {t inside rest : Text} (h : scanString t = .closed inside rest) :
    ∃ taken, t = taken ++ .scalar '"' :: rest
      ∧ ∀ rest, scanString (taken ++ .scalar '"' :: rest) = .closed inside rest := by
  fun_induction scanString t generalizing inside with
  | case2 after =>
      cases h
      refine ⟨[], rfl, fun rest => ?_⟩
      rw [List.nil_append, scanString.eq_def]
      rfl
  | case4 a b x y next after point hpoint _ ih =>
      obtain ⟨more, hmore, rfl⟩ := StringScan.cons_eq_closed_iff.mp h
      obtain ⟨taken, htaken, hstable⟩ := ih hmore
      refine ⟨.scalar '\\' :: .scalar 'u' :: a :: b :: x :: y :: taken, by rw [htaken]; rfl,
        fun rest => ?_⟩
      exact scanString_fourDigits hpoint (hstable rest)
  | case7 e after hu point hpoint _ ih =>
      obtain ⟨more, hmore, rfl⟩ := StringScan.cons_eq_closed_iff.mp h
      obtain ⟨taken, rfl, hstable⟩ := ih hmore
      refine ⟨.scalar '\\' :: e :: taken, rfl, fun rest => ?_⟩
      exact scanString_shortEscape hpoint (hstable rest)
  | case10 c after hquote hslash hcontrol ih =>
      obtain ⟨more, hmore, rfl⟩ := StringScan.cons_eq_closed_iff.mp h
      obtain ⟨taken, rfl, hstable⟩ := ih hmore
      refine ⟨c :: taken, rfl, fun rest => ?_⟩
      exact scanString_plain hquote hslash (Nat.le_of_not_lt hcontrol) (hstable rest)
  | _ => cases h

theorem exists_of_scanWord? {t rest : Text} {lexeme : Lexeme}
    (h : scanWord? t = some (lexeme, rest)) :
    ∃ word, (word, lexeme) ∈ words ∧ t = word ++ rest := by
  obtain ⟨⟨word, lexeme'⟩, hmem, hentry⟩ := List.exists_of_findSome?_eq_some h
  obtain ⟨after, hafter, heq⟩ := Option.map_eq_some_iff.mp hentry
  cases heq
  exact ⟨word, hmem, Text.eq_append_of_after? hafter⟩

theorem scanWord?_word {word : Text} {lexeme : Lexeme} (h : (word, lexeme) ∈ words) (rest : Text) :
    scanWord? (word ++ rest) = some (lexeme, rest) := by
  simp only [words, List.mem_cons, List.not_mem_nil, or_false, Prod.mk.injEq] at h
  rcases h with ⟨rfl, rfl⟩ | ⟨rfl, rfl⟩ | ⟨rfl, rfl⟩ | ⟨rfl, rfl⟩ | ⟨rfl, rfl⟩ | ⟨rfl, rfl⟩ <;> rfl

theorem words_spec : ∀ e ∈ words, e.1 ≠ [] ∧ .scalar '[' ∉ e.1 := by
  decide

/-! ## Tokens -/

/-- A lexeme that is what it seems to be, as opposed to what is left of a text that
could not be split. -/
def Lexeme.IsWhole : Lexeme → Prop
  | .brokenString _ _ => False
  | .stray => False
  | _ => True

/-- A word at the front of a text is its first token. -/
theorem scanLexeme_of_scanWord? {c : CodePoint} {t rest : Text} {lexeme : Lexeme}
    (h : scanWord? (c :: t) = some (lexeme, rest)) : scanLexeme c t = (lexeme, rest) := by
  unfold scanLexeme
  split
  case h_8 => simp only [h]
  all_goals cases h

/-- A numeral at the front of a text is its first token. -/
theorem scanLexeme_of_scan? {c : CodePoint} {t rest : Text} {n : Numeral}
    (h : Numeral.scan? (c :: t) = some (n, rest)) : scanLexeme c t = (.number n, rest) := by
  obtain ⟨d, more, hd, ht | ht⟩ := Numeral.exists_digit_of_scan? h
  · cases ht
    exact scanLexeme_number (Or.inr ⟨d, rfl, hd⟩) (scanWord?_digit hd t) h
  · cases ht
    exact scanLexeme_number (Or.inl rfl) (scanWord?_minus_digit hd more) h

/-- A word stands on its own: nothing starts an array in it, and what follows it does not
change it. -/
theorem exists_of_wordLexeme {c : CodePoint} {rest after : Text} {lexeme : Lexeme}
    (h : scanWord? (c :: rest) = some (lexeme, after)) :
    ∃ taken, rest = taken ++ after ∧ .scalar '[' ∉ taken
      ∧ ∀ after, scanLexeme c (taken ++ after) = (lexeme, after) := by
  obtain ⟨word, hmem, htext⟩ := exists_of_scanWord? h
  obtain ⟨hne, hbracket⟩ := words_spec _ hmem
  cases word with
  | nil => exact absurd rfl hne
  | cons d taken =>
      cases htext
      refine ⟨taken, rfl, fun h => hbracket (List.mem_cons_of_mem _ h), fun _ => ?_⟩
      exact scanLexeme_of_scanWord? (scanWord?_word hmem _)

/-- So does a numeral, if it does not run on. -/
theorem exists_of_numberLexeme {c : CodePoint} {rest after : Text} {n : Numeral}
    (h : Numeral.scan? (c :: rest) = some (n, after)) :
    ∃ taken, rest = taken ++ after ∧ .scalar '[' ∉ taken
      ∧ ∀ {after : Text}, after.EndsNumeral →
        scanLexeme c (taken ++ after) = (.number n, after) := by
  obtain ⟨taken, htext, hin, hstable⟩ := Numeral.exists_of_scan? h
  have hlt := Numeral.scan?_length_lt h
  cases taken with
  | nil =>
      rw [htext] at hlt
      exact absurd hlt (Nat.lt_irrefl _)
  | cons d taken =>
      cases htext
      refine ⟨taken, rfl, fun h => ?_, fun hend => scanLexeme_of_scan? (hstable hend)⟩
      exact Numeral.not_inNumeral_bracket (hin _ (List.mem_cons_of_mem _ h))

/-- What a token leaves behind, cut off from what follows: either nothing can be
inside of it that starts an array, or it ends with a quote. -/
theorem exists_of_scanLexeme {c : CodePoint} {rest after : Text} {lexeme : Lexeme}
    (h : scanLexeme c rest = (lexeme, after)) (hwhole : lexeme.IsWhole) :
    ∃ taken, rest = taken ++ after
      ∧ (.scalar '[' ∉ taken ∨ taken.getLast? = some (.scalar '"'))
      ∧ ∀ {after : Text}, (∀ n, lexeme = .number n → after.EndsNumeral) →
        scanLexeme c (taken ++ after) = (lexeme, after) := by
  unfold scanLexeme at h
  split at h
  case h_7 =>
    -- a string may hold brackets, but ends with its quote
    split at h
    · next inside rest' hscan =>
        cases h
        obtain ⟨taken, rfl, hstable⟩ := exists_of_scanString hscan
        refine ⟨taken ++ [.scalar '"'], by simp, Or.inr (by simp), fun {after} _ => ?_⟩
        rw [List.append_assoc]
        simp only [scanLexeme, List.singleton_append, hstable]
    · cases h
      exact hwhole.elim
    · cases h
      exact hwhole.elim
  case h_8 =>
    split at h
    · next hword =>
        cases h
        obtain ⟨taken, htext, hbracket, hstable⟩ := exists_of_wordLexeme hword
        exact ⟨taken, htext, Or.inl hbracket, fun _ => hstable _⟩
    · split at h
      · next n rest' hscan =>
          cases h
          obtain ⟨taken, htext, hbracket, hstable⟩ := exists_of_numberLexeme hscan
          exact ⟨taken, htext, Or.inl hbracket, fun hend => hstable (hend n rfl)⟩
      · cases h
        exact hwhole.elim
  all_goals
    cases h
    exact ⟨[], rfl, Or.inl List.not_mem_nil, fun _ => rfl⟩

end Json

end SecurityRules
