import SecurityRules.Proofs.TokenBoundaries

/-!
# Integers of too many digits

There is one way for a document to be refused that is not a complaint about what
it lacks: an integer in it may have too many digits. `read_eq_tooManyDigits_iff`
says in terms of the document alone when this happens. The document has a front
that a value may follow, and what follows is such an integer. Whatever comes
after the integer does not matter.

A front that a value may follow is one that an empty array and some closing
brackets make a whole document. The machine is led by it into a phase in which a
value may start. The proof goes both ways between the document and that phase,
by induction on the front, one token at a time.
-/

namespace SecurityRules.Json

/-! ## What one token does -/

/-- The place of a token plays no part unless it is refused. -/
theorem toOption_advance (stack : List Frame) (phase : Phase) (lexeme : Lexeme)
    (left left' : Nat) :
    (advance stack phase ⟨lexeme, left⟩).toOption
      = (advance stack phase ⟨lexeme, left'⟩).toOption := by
  cases phase with
  | after v =>
      cases stack with
      | nil => rfl
      | cons frame stack => cases frame <;> cases lexeme <;> rfl
  | _ => cases lexeme <;> rfl

theorem advance_eq_ok {stack stack' : List Frame} {phase phase' : Phase} {lexeme : Lexeme}
    {left : Nat} (h : advance stack phase ⟨lexeme, left⟩ = .ok (stack', phase')) (left' : Nat) :
    advance stack phase ⟨lexeme, left'⟩ = .ok (stack', phase') := by
  have hsame := toOption_advance stack phase lexeme left left'
  rw [h] at hsame
  cases hadvance : advance stack phase ⟨lexeme, left'⟩ with
  | error stop =>
      rw [hadvance] at hsame
      cases hsame
  | ok state =>
      rw [hadvance] at hsame
      cases hsame
      rfl

/-- A number is a complete value. -/
theorem advance_number {stack stack' : List Frame} {phase phase' : Phase} {n : Numeral}
    {left : Nat} (h : advance stack phase ⟨.number n, left⟩ = .ok (stack', phase')) :
    ∃ v, phase' = .after v := by
  have hbegin : ∀ {frames : List Frame},
      (beginValue ⟨.number n, left⟩).map (frames, ·) = .ok (stack', phase') →
        ∃ v, phase' = .after v := by
    intro frames hmap
    obtain ⟨begun, hbegun, heq⟩ := exceptMap_eq_ok hmap
    obtain ⟨v, -, hv⟩ := exceptMap_eq_ok (show (ofNumeral n).map .after = .ok begun from hbegun)
    cases heq
    exact ⟨v, hv.symm⟩
  cases phase with
  | value => exact hbegin h
  | firstItem => exact hbegin h
  | after v =>
      cases stack with
      | nil => cases h
      | cons frame stack => cases frame <;> cases h
  | _ => cases h

/-- After a complete value only a comma or a closing bracket may come. -/
theorem advance_after {stack : List Frame} {v : Json} {lexeme : Lexeme} {left : Nat}
    {state : List Frame × Phase} (h : advance stack (.after v) ⟨lexeme, left⟩ = .ok state) :
    lexeme ∈ [.comma, .closeBracket, .closeBrace] := by
  cases stack with
  | nil => cases h
  | cons frame stack =>
      cases frame with
      | array items =>
          simp only [advance, step] at h
          split at h <;> simp_all
      | object entries key =>
          simp only [advance, step] at h
          split at h <;> simp_all

theorem isWhole_of_advance {stack : List Frame} {phase : Phase} {lexeme : Lexeme} {left : Nat}
    {state : List Frame × Phase} (h : advance stack phase ⟨lexeme, left⟩ = .ok state) :
    lexeme.IsWhole := by
  cases lexeme with
  | brokenString fault place =>
      cases phase with
      | after v => simpa using advance_after h
      | _ => cases h
  | stray =>
      cases phase with
      | after v => simpa using advance_after h
      | _ => cases h
  | _ => trivial

theorem opens_of_openBracket {stack : List Frame} {phase : Phase} {left : Nat}
    {state : List Frame × Phase} (h : advance stack phase ⟨.openBracket, left⟩ = .ok state) :
    ∃ inner, Opens stack phase inner := by
  cases phase with
  | value => exact ⟨_, .value⟩
  | firstItem => exact ⟨_, .firstItem⟩
  | after v => simpa using advance_after h
  | _ => cases h

theorem ofNumeral_eq_tooManyDigits {n : Numeral} {count : Nat}
    (h : ofNumeral n = .error (.tooManyDigits count)) :
    n.toInt?.isSome ∧ n.whole.length = count ∧ maxIntegerDigits < count := by
  unfold ofNumeral at h
  split at h
  · next i hint =>
      split at h
      · cases h
      · next hlong =>
          cases h
          exact ⟨by rw [hint]; rfl, rfl, Nat.lt_of_not_le hlong⟩
  · cases h

theorem beginValue_eq_tooManyDigits {lexeme : Lexeme} {left count : Nat}
    (h : beginValue ⟨lexeme, left⟩ = .error (.tooManyDigits count)) :
    ∃ n, lexeme = .number n ∧ ofNumeral n = .error (.tooManyDigits count) := by
  cases lexeme with
  | number n => exact ⟨n, rfl, exceptMap_eq_error h⟩
  | _ => cases h

theorem step_ne_tooManyDigits (v : Json) (stack : List Frame) (t : Token) (count : Nat) :
    step v stack t ≠ .error (.tooManyDigits count) := by
  intro h
  cases stack with
  | nil => cases h
  | cons frame stack =>
      cases frame <;> simp only [step] at h <;> split at h <;> cases h

/-- Only a number where a value may start can have too many digits. -/
theorem advance_eq_tooManyDigits {stack : List Frame} {phase : Phase} {lexeme : Lexeme}
    {left count : Nat}
    (h : advance stack phase ⟨lexeme, left⟩ = .error (.tooManyDigits count)) :
    ∃ n inner, lexeme = .number n ∧ Opens stack phase inner
      ∧ ofNumeral n = .error (.tooManyDigits count) := by
  have hkey : ∀ entries : Record Json,
      beginEntry entries ⟨lexeme, left⟩ ≠ .error (.tooManyDigits count) := by
    intro entries
    cases lexeme <;> nofun
  cases phase with
  | value =>
      obtain ⟨n, hn, hlong⟩ := beginValue_eq_tooManyDigits (exceptMap_eq_error h)
      exact ⟨n, _, hn, .value, hlong⟩
  | firstItem =>
      simp only [advance] at h
      split at h
      · cases h
      · obtain ⟨n, hn, hlong⟩ := beginValue_eq_tooManyDigits (exceptMap_eq_error h)
        exact ⟨n, _, hn, .firstItem, hlong⟩
  | firstKey =>
      simp only [advance] at h
      split at h
      · cases h
      · exact absurd (exceptMap_eq_error h) (hkey _)
  | key entries => exact absurd (exceptMap_eq_error h) (hkey _)
  | colon entries key =>
      simp only [advance] at h
      split at h <;> cases h
  | after v => exact absurd h (step_ne_tooManyDigits _ _ _ _)

/-! ## What leads to a value -/

/-- A text that takes the machine from one state to another, whatever comes after it.
After a complete value, it cuts off a number in front of it. -/
structure Leads (stack : List Frame) (phase : Phase) (before : Text) (stack' : List Frame)
    (phase' : Phase) : Prop where
  run : ∀ after, Json.run stack phase (tokens (before ++ after))
    = Json.run stack' phase' (tokens after)
  endsNumeral : ∀ v, phase = .after v → ∀ after, Text.EndsNumeral (before ++ after)

theorem mark_of_scanLexeme {c : CodePoint} {t rest : Text} {lexeme : Lexeme}
    (h : scanLexeme c t = (lexeme, rest)) (hmark : lexeme ∈ [.comma, .closeBracket, .closeBrace]) :
    ∃ mark ∈ [',', ']', '\x7d', '\n'], c = .scalar mark := by
  unfold scanLexeme at h
  split at h
  case h_2 => exact ⟨'\x7d', by decide, rfl⟩
  case h_4 => exact ⟨']', by decide, rfl⟩
  case h_6 => exact ⟨',', by decide, rfl⟩
  case h_7 => split at h <;> cases h <;> simp at hmark
  case h_8 =>
    split at h
    · next hword =>
        cases h
        obtain ⟨word, hmem, -⟩ := exists_of_scanWord? hword
        have hword : ∀ e ∈ words, e.2 ∉ [.comma, .closeBracket, .closeBrace] := by decide
        exact absurd hmark (hword _ hmem)
    · split at h <;> cases h <;> simp at hmark
  all_goals
    cases h
    simp at hmark

theorem endsNumeral_spaces_append {ws : Text} (hws : ∀ c ∈ ws, isSpace c) {t : Text}
    (ht : t.EndsNumeral) : (ws ++ t).EndsNumeral := by
  cases ws with
  | nil => exact ht
  | cons c ws => exact fun d hd => endsNumeral_spaces hws d hd

/-- One more token in front. -/
theorem Leads.token {stack stack₁ stack' : List Frame} {phase phase₁ phase' : Phase}
    {ws taken before : Text} {c : CodePoint} {lexeme : Lexeme} {left : Nat}
    (hws : ∀ c ∈ ws, isSpace c) (hspace : isSpace c = false)
    (hscan : ∀ {after : Text}, (∀ n, lexeme = .number n → after.EndsNumeral) →
      scanLexeme c (taken ++ after) = (lexeme, after))
    (hadvance : advance stack phase ⟨lexeme, left⟩ = .ok (stack₁, phase₁))
    (h : Leads stack₁ phase₁ before stack' phase') :
    Leads stack phase (ws ++ c :: (taken ++ before)) stack' phase' := by
  constructor
  · intro after
    have hend : ∀ n, lexeme = .number n → Text.EndsNumeral (before ++ after) := by
      rintro n rfl
      obtain ⟨v, hv⟩ := advance_number hadvance
      exact h.endsNumeral v hv after
    have hlex := lexes_of_scanLexeme hspace (hscan hend)
    rw [List.append_assoc, tokens_spaces hws, ← h.run after, List.cons_append, List.append_assoc]
    exact hlex.run (advance_eq_ok hadvance)
  · -- after a value the token is a mark, and no number goes on with one
    rintro v rfl after
    have hmark := advance_after hadvance
    have hscan' := @hscan [] (by rintro n rfl; simp at hmark)
    obtain ⟨mark, hmem, rfl⟩ := mark_of_scanLexeme hscan' hmark
    rw [List.append_assoc]
    exact endsNumeral_spaces_append hws (endsNumeral_mark hmem _)

/-- White space takes the machine nowhere. -/
theorem Leads.spaces {stack inner : List Frame} {phase : Phase} {ws : Text}
    (hws : ∀ c ∈ ws, isSpace c) (hopens : Opens stack phase inner) :
    Leads stack phase ws stack phase where
  run after := by rw [tokens_spaces hws]
  endsNumeral := by
    rintro v rfl
    cases hopens

/-! ## From a document to the phase -/

theorem scan?_of_scanLexeme {c : CodePoint} {t rest : Text} {n : Numeral}
    (h : scanLexeme c t = (.number n, rest)) : Numeral.scan? (c :: t) = some (n, rest) := by
  unfold scanLexeme at h
  split at h
  case h_7 => split at h <;> cases h
  case h_8 =>
    split at h
    · next hword =>
        cases h
        obtain ⟨word, hmem, -⟩ := exists_of_scanWord? hword
        simp [words] at hmem
    · split at h
      · next hscan =>
          cases h
          exact hscan
      · cases h
  all_goals cases h

theorem finish_ne_tooManyDigits (stack : List Frame) (phase : Phase) (count : Nat) :
    finish stack phase ≠ .error (.tooManyDigits count) := by
  cases stack <;> cases phase <;> nofun

/-- A text is white space, or has a first token behind white space. -/
theorem spaces_or_token (t : Text) :
    (∀ c ∈ t, isSpace c)
      ∨ ∃ ws c rest, t = ws ++ c :: rest ∧ (∀ c ∈ ws, isSpace c) ∧ isSpace c = false := by
  induction t with
  | nil => exact Or.inl nofun
  | cons c t ih =>
      cases hspace : isSpace c with
      | false => exact Or.inr ⟨[], c, t, rfl, nofun, hspace⟩
      | true =>
          rcases ih with hws | ⟨ws, d, rest, rfl, hws, hd⟩
          · exact Or.inl (List.forall_mem_cons.mpr ⟨hspace, hws⟩)
          · exact Or.inr ⟨c :: ws, d, rest, rfl, List.forall_mem_cons.mpr ⟨hspace, hws⟩, hd⟩

theorem tokens_of_spaces {ws : Text} (hws : ∀ c ∈ ws, isSpace c) : tokens ws = [] := by
  rw [tokens_eq, List.dropWhile_eq_nil_iff.mpr hws]

theorem tokens_of_scanLexeme {ws rest after : Text} {c : CodePoint} {lexeme : Lexeme}
    (hws : ∀ c ∈ ws, isSpace c) (hspace : isSpace c = false)
    (hscan : scanLexeme c rest = (lexeme, after)) :
    tokens (ws ++ c :: rest) = ⟨lexeme, rest.length + 1⟩ :: tokens after := by
  rw [tokens_spaces hws, tokens_eq, List.dropWhile_cons_of_neg (by simp [hspace])]
  simp only [hscan]

theorem tokens_of_scan? {t rest : Text} {n : Numeral} (h : Numeral.scan? t = some (n, rest)) :
    ∃ left, tokens t = ⟨.number n, left⟩ :: tokens rest := by
  obtain ⟨d, more, hd, rfl | rfl⟩ := Numeral.exists_digit_of_scan? h
  · have hlexeme := scanLexeme_of_scan? h
    exact ⟨_, tokens_of_scanLexeme (List.forall_mem_nil _) (isSpace_digit hd) hlexeme⟩
  · have hlexeme := scanLexeme_of_scan? h
    exact ⟨_, tokens_of_scanLexeme (List.forall_mem_nil _) rfl hlexeme⟩

theorem run_cons_eq_ok {stack : List Frame} {phase : Phase} {token : Token} {ts : List Token}
    {v : Json} (h : run stack phase (token :: ts) = .ok v) :
    ∃ stack' phase', advance stack phase token = .ok (stack', phase')
      ∧ run stack' phase' ts = .ok v := by
  rw [run] at h
  split at h
  · next stack' phase' hadvance => exact ⟨stack', phase', hadvance, h⟩
  · cases h

/-- Where an integer of too many digits stops the machine, it stands where a value
may start. -/
theorem exists_leads_of_tooManyDigits {t : Text} {stack : List Frame} {phase : Phase} {count : Nat}
    (h : run stack phase (tokens t) = .error (.tooManyDigits count)) :
    ∃ before rest stack' phase' inner n after, t = before ++ rest
      ∧ Leads stack phase before stack' phase' ∧ Opens stack' phase' inner
      ∧ Numeral.scan? rest = some (n, after) ∧ ofNumeral n = .error (.tooManyDigits count) := by
  -- by length, since a token may take any number of code points
  induction hlen : t.length using Nat.strongRecOn generalizing t stack phase with
  | _ length ih =>
      rcases spaces_or_token t with hws | ⟨ws, c, rest, rfl, hws, hspace⟩
      · rw [tokens_of_spaces hws] at h
        exact absurd h (finish_ne_tooManyDigits _ _ _)
      · obtain ⟨lexeme, after, hscan⟩ : ∃ lexeme after, scanLexeme c rest = (lexeme, after) :=
          ⟨_, _, rfl⟩
        rw [tokens_of_scanLexeme hws hspace hscan, run] at h
        split at h
        · next stack₁ phase₁ hadvance =>
            obtain ⟨taken, rfl, -, hstable⟩ :=
              exists_of_scanLexeme hscan (isWhole_of_advance hadvance)
            have hshorter : after.length < length := by
              simp only [List.length_append, List.length_cons] at hlen
              omega
            obtain ⟨before, last, stack', phase', inner, n, beyond, rfl, hleads, hopens, hnumber⟩ :=
              ih _ hshorter h rfl
            exact ⟨ws ++ c :: (taken ++ before), last, stack', phase', inner, n, beyond, by simp,
              hleads.token hws hspace hstable hadvance, hopens, hnumber⟩
        · next stop hadvance =>
            cases h
            obtain ⟨n, inner, rfl, hopens, hlong⟩ := advance_eq_tooManyDigits hadvance
            exact ⟨ws, c :: rest, stack, phase, inner, n, after, rfl, .spaces hws hopens, hopens,
              scan?_of_scanLexeme hscan, hlong⟩

/-! ## Documents with an empty array at the place of the value -/

/-- Nothing but brackets that close something. -/
def IsClosing (t : Text) : Prop :=
  ∀ c ∈ t, c = .scalar ']' ∨ c = .scalar '\x7d'

/-- What is open can be closed. -/
theorem exists_closing (stack : List Frame) (v : Json) :
    ∃ closing w, IsClosing closing ∧ run stack (.after v) (tokens closing) = .ok w := by
  induction stack generalizing v with
  | nil => exact ⟨[], v, nofun, by rw [tokens_eq]; rfl⟩
  | cons frame stack ih =>
      cases frame with
      | array items =>
          obtain ⟨closing, w, hclosing, hrun⟩ := ih (.array (v :: items).reverse)
          refine ⟨.scalar ']' :: closing, w, List.forall_mem_cons.mpr ⟨Or.inl rfl, hclosing⟩, ?_⟩
          rw [run_mark .closeBracket rfl (fun _ => rfl) fun _ => rfl, hrun]
      | object entries key =>
          obtain ⟨closing, w, hclosing, hrun⟩ := ih (.object (entries.insert key v))
          refine ⟨.scalar '\x7d' :: closing, w, List.forall_mem_cons.mpr ⟨Or.inr rfl, hclosing⟩,
            ?_⟩
          rw [run_mark .closeBrace rfl (fun _ => rfl) fun _ => rfl, hrun]

/-- A token does not reach into an empty array behind it. -/
theorem exists_of_append_eq {taken after rest closing : Text} (hclosing : IsClosing closing)
    (h : rest ++ ("[]" ++ closing) = taken ++ after)
    (htaken : .scalar '[' ∉ taken ∨ taken.getLast? = some (.scalar '"')) :
    ∃ more, rest = taken ++ more ∧ after = more ++ ("[]" ++ closing) := by
  rcases List.append_eq_append_iff.mp h with ⟨inside, rfl, hafter⟩ | ⟨more, rfl, hafter⟩
  · cases inside with
    | nil => exact ⟨[], by simp, by simpa using hafter.symm⟩
    | cons c inside =>
        -- part of the array would be inside of the token, which then ends with a bracket
        exfalso
        have hmem : ∀ d ∈ c :: inside, d = .scalar '[' ∨ d = .scalar ']' ∨ d = .scalar '\x7d' := by
          intro d hd
          have hd' : d ∈ Text.ofString "[]" ++ closing := by
            rw [hafter]
            exact List.mem_append_left _ hd
          rcases List.mem_append.mp hd' with hd' | hd'
          · simp [Text.ofString, Text.ofChars] at hd'
            tauto
          · exact Or.inr (hclosing d hd')
        rcases htaken with htaken | htaken
        · have hc : c = .scalar '[' := by
            have := congrArg List.head? hafter
            simpa [Text.ofString, Text.ofChars] using this.symm
          exact htaken (by simp [hc])
        · rw [List.getLast?_append_of_ne_nil _ (List.cons_ne_nil _ _)] at htaken
          have := hmem _ (List.mem_of_getLast? htaken)
          simp at this
  · exact ⟨more, rfl, hafter⟩

/-- A front that an empty array can follow is one that a value can. -/
theorem exists_leads_of_ok {before closing : Text} (hclosing : IsClosing closing)
    {stack : List Frame} {phase : Phase} {v : Json}
    (h : run stack phase (tokens (before ++ ("[]" ++ closing))) = .ok v) :
    ∃ stack' phase' inner, Leads stack phase before stack' phase' ∧ Opens stack' phase' inner := by
  induction hlen : before.length using Nat.strongRecOn generalizing before stack phase with
  | _ length ih =>
      rcases spaces_or_token before with hws | ⟨ws, c, rest, rfl, hws, hspace⟩
      · -- the empty array comes next, and only where a value may start is it taken
        have hscan : scanLexeme (.scalar '[') (.scalar ']' :: closing)
            = (.openBracket, .scalar ']' :: closing) := rfl
        have htokens := tokens_of_scanLexeme hws rfl hscan
        obtain ⟨stack₁, phase₁, hadvance, -⟩ := run_cons_eq_ok (htokens ▸ h)
        obtain ⟨inner, hopens⟩ := opens_of_openBracket hadvance
        exact ⟨stack, phase, inner, .spaces hws hopens, hopens⟩
      · obtain ⟨lexeme, after, hscan⟩ :
            ∃ lexeme after, scanLexeme c (rest ++ ("[]" ++ closing)) = (lexeme, after) :=
          ⟨_, _, rfl⟩
        rw [List.append_assoc, List.cons_append, tokens_of_scanLexeme hws hspace hscan] at h
        obtain ⟨stack₁, phase₁, hadvance, hrun⟩ := run_cons_eq_ok h
        obtain ⟨taken, htext, htaken, hstable⟩ :=
          exists_of_scanLexeme hscan (isWhole_of_advance hadvance)
        obtain ⟨more, rfl, rfl⟩ := exists_of_append_eq hclosing htext htaken
        have hshorter : more.length < length := by
          simp only [List.length_append, List.length_cons] at hlen
          omega
        obtain ⟨stack', phase', inner, hleads, hopens⟩ := ih _ hshorter hrun rfl
        exact ⟨stack', phase', inner, hleads.token hws hspace hstable hadvance, hopens⟩

/-! ## Integers of too many digits -/

/-- A front that a value may follow: with an empty array and closing brackets it is
a document. -/
def AwaitsValue (before : Text) : Prop :=
  ∃ closing v, IsClosing closing ∧ read (before ++ ("[]" ++ closing)) = .ok v

/-- A document that has an integer of too many digits in a place of a value, up to
which nothing is wrong. -/
inductive MeetsLongInteger : Text → Nat → Prop
  | intro {before after : Text} {digits : List Char} (negative : Bool)
      (hbefore : AwaitsValue before) (hdigits : IsDigits digits)
      (hlead : digits.head? ≠ some '0') (hlong : maxIntegerDigits < digits.length)
      (hafter : ¬ after.ContinuesInteger) :
      MeetsLongInteger (before ++ (signText negative ++ (Text.ofChars digits ++ after)))
        digits.length

theorem Opens.run_emptyArray {stack inner : List Frame} {phase : Phase}
    (h : Opens stack phase inner) (t : Text) :
    Json.run stack phase (tokens ("[]" ++ t)) = Json.run inner (.after (.array [])) (tokens t) := by
  have htext : Text.ofString "[]" ++ t = .scalar '[' :: .scalar ']' :: t := rfl
  rw [htext, run_mark .openBracket rfl (fun _ => rfl) (h.advance nofun fun _ => rfl),
    run_mark .closeBracket rfl (fun _ => rfl) fun _ => rfl]

theorem Opens.run_number {stack inner : List Frame} {phase : Phase} (h : Opens stack phase inner)
    {t rest : Text} {n : Numeral} (hscan : Numeral.scan? t = some (n, rest)) {stop : Stop}
    (hstop : ofNumeral n = .error stop) : Json.run stack phase (tokens t) = .error stop := by
  obtain ⟨left, htokens⟩ := tokens_of_scan? hscan
  have hbegin : beginValue ⟨.number n, left⟩ = .error stop := by
    simp only [beginValue, hstop]
    rfl
  have hadvance : Json.advance stack phase ⟨.number n, left⟩ = .error stop := by
    cases h with
    | value => rw [Json.advance, hbegin]; rfl
    | firstItem => simp only [Json.advance, hbegin]; rfl
  rw [htokens, Json.run, hadvance]

/-- An integer numeral of too many digits, in terms of the text that it is read from. -/
theorem exists_digits_of_tooManyDigits {t rest : Text} {n : Numeral} {count : Nat}
    (hscan : Numeral.scan? t = some (n, rest))
    (h : ofNumeral n = .error (.tooManyDigits count)) :
    ∃ negative digits, n = ⟨negative, digits, none, none⟩ ∧ digits.head? ≠ some '0'
      ∧ digits.length = count ∧ maxIntegerDigits < count := by
  obtain ⟨hint, hlength, hlong⟩ := ofNumeral_eq_tooManyDigits h
  obtain ⟨negative, digits, fraction, exponent⟩ := n
  obtain ⟨_, _, _, _, hwhole, _⟩ := Numeral.scan?_eq_some_iff.mp hscan
  have hlead : digits.head? ≠ some '0' := by
    rcases (Numeral.scanWhole?_eq_some hwhole).2.2 with hzero | ⟨hlead, -⟩
    · simp only at hzero hlength
      rw [hzero] at hlength
      subst hlength
      exact absurd hlong (by decide)
    · exact hlead
  match fraction, exponent with
  | none, none => exact ⟨negative, digits, rfl, hlead, hlength, hlong⟩
  | some _, _ => cases hint
  | none, some _ => cases hint

/-- An integer of too many digits is met exactly where the document shows one. -/
theorem read_eq_tooManyDigits_iff {t : Text} {count : Nat} :
    read t = .error (.tooManyDigits count) ↔ MeetsLongInteger t count := by
  rw [(read_eq_iff_run t).2]
  constructor
  · intro h
    obtain ⟨before, rest, stack, phase, inner, n, after, rfl, hleads, hopens, hscan, hlong⟩ :=
      exists_leads_of_tooManyDigits h
    obtain ⟨negative, digits, rfl, hlead, rfl, hcount⟩ :=
      exists_digits_of_tooManyDigits hscan hlong
    obtain ⟨rfl, hdigits, hafter⟩ := (Numeral.scan?_integer_iff hlead).mp hscan
    obtain ⟨closing, v, hclosing, hrun⟩ := exists_closing inner (.array [])
    have hread : read (before ++ ("[]" ++ closing)) = .ok v := by
      rw [(read_eq_iff_run _).1, hleads.run, hopens.run_emptyArray, hrun]
    exact .intro negative ⟨closing, v, hclosing, hread⟩ hdigits hlead hcount hafter
  · rintro ⟨negative, ⟨closing, v, hclosing, hread⟩, hdigits, hlead, hlong, hafter⟩
    obtain ⟨stack, phase, inner, hleads, hopens⟩ :=
      exists_leads_of_ok hclosing (((read_eq_iff_run _).1 v).mp hread)
    rw [hleads.run]
    refine hopens.run_number ((Numeral.scan?_integer_iff hlead).mpr ⟨rfl, hdigits, hafter⟩) ?_
    simp only [ofNumeral, Numeral.toInt?]
    rw [if_neg (Nat.not_le_of_lt hlong)]

end SecurityRules.Json
