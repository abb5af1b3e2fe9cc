import SecurityRules.Json.Writer
import SecurityRules.Proofs.JsonReadable
import SecurityRules.Proofs.ShortestReadBack

/-!
# A written document is read back

The machine reads a value in the middle of a document as it would read it alone:
it comes out behind the value with the stack it went in with. `ReadsBack` says
this of a written value, for every stack and for whatever comes after it, and
`Readable.readsBack` proves it of all readable values by induction on them. What
comes after matters in one place only: a number must not run on into it, and no
layout lets it.

The layout is any that puts white space between tokens and nothing else.
-/

namespace SecurityRules.Json

/-! ## Tokens of a written text -/

theorem tokens_spaces {ws : Text} (hws : ∀ c ∈ ws, isSpace c) (t : Text) :
    tokens (ws ++ t) = tokens t := by
  rw [tokens_eq, tokens_eq t, List.dropWhile_append_of_pos hws]

/-- A text that is one token, whatever the given rest. -/
structure Lexes (written : Text) (lexeme : Lexeme) (rest : Text) : Prop where
  tokens_eq : tokens (written ++ rest) = ⟨lexeme, (written ++ rest).length⟩ :: tokens rest

theorem lexes_of_scanLexeme {c : CodePoint} {more rest : Text} {lexeme : Lexeme}
    (hspace : isSpace c = false) (h : scanLexeme c (more ++ rest) = (lexeme, rest)) :
    Lexes (c :: more) lexeme rest := by
  refine ⟨?_⟩
  rw [List.cons_append, Json.tokens_eq, List.dropWhile_cons_of_neg (by simp [hspace])]
  simp only [h, List.length_cons]

theorem lexes_null (rest : Text) : Lexes "null" .null rest :=
  lexes_of_scanLexeme rfl rfl

theorem lexes_true (rest : Text) : Lexes "true" (.bool true) rest :=
  lexes_of_scanLexeme rfl rfl

theorem lexes_false (rest : Text) : Lexes "false" (.bool false) rest :=
  lexes_of_scanLexeme rfl rfl

theorem lexes_string {s : Text} (hs : s.Joined) (rest : Text) :
    Lexes (writeString s) (.string s) rest := by
  show Lexes (.scalar '"' :: (s.flatMap escaped ++ [.scalar '"'])) _ _
  refine lexes_of_scanLexeme rfl ?_
  simp only [scanLexeme, List.append_assoc, List.singleton_append, scanString_writeString,
    joinHalves_halves hs]

theorem isSpace_digit {c : Char} (hc : c.isDigit) : isSpace (.scalar c) = false := by
  simp only [isSpace, Bool.or_eq_false_iff, decide_eq_false_iff_not, CodePoint.scalar.injEq]
  refine ⟨⟨⟨?_, ?_⟩, ?_⟩, ?_⟩ <;> rintro rfl <;> cases hc

theorem scanWord?_digit {c : Char} (hc : c.isDigit) (t : Text) :
    scanWord? (.scalar c :: t) = none := by
  unfold scanWord?
  rw [List.findSome?_eq_none_iff]
  rintro ⟨word, lexeme⟩ hentry
  have hhead : ∀ e ∈ words, ∃ d more, e.1 = .scalar d :: more ∧ d.isDigit = false := by
    simp [words, Text.ofString, Text.ofChars]
  obtain ⟨d, more, hword, hd⟩ := hhead _ hentry
  have hne : d ≠ c := by
    rintro rfl
    simp [hd] at hc
  cases hword
  simp [Text.after?, hne]

theorem scanWord?_minus_digit {c : Char} (hc : c.isDigit) (t : Text) :
    scanWord? (.scalar '-' :: .scalar c :: t) = none := by
  have hne : 'I' ≠ c := by
    rintro rfl
    cases hc
  simp [scanWord?, words, Text.ofString, Text.ofChars, Text.after?, hne]

theorem scanLexeme_number {c : CodePoint} {t rest : Text} {n : Numeral}
    (hc : c = .scalar '-' ∨ ∃ d, c = .scalar d ∧ d.isDigit) (hword : scanWord? (c :: t) = none)
    (hscan : Numeral.scan? (c :: t) = some (n, rest)) : scanLexeme c t = (.number n, rest) := by
  unfold scanLexeme
  split
  case h_8 => simp only [hword, hscan]
  all_goals
    rcases hc with hc | ⟨d, hc, hd⟩
    · cases hc
    · cases hc
      cases hd

theorem lexes_numeral {n : Numeral} (hn : n.WellSpelled) {rest : Text} (hrest : rest.EndsNumeral) :
    Lexes n.spelling (.number n) rest := by
  have hscan := Numeral.scan?_spelling hn hrest
  obtain ⟨c, cs, hw, hdigit⟩ := hn.exists_whole
  cases hneg : n.negative with
  | true =>
      have hspell : n.spelling = .scalar '-' :: .scalar c :: (Text.ofChars cs
          ++ (Numeral.fractionSpelling n.fraction ++ Numeral.exponentSpelling n.exponent)) := by
        rw [Numeral.spelling, hneg, hw]
        rfl
      rw [hspell] at hscan ⊢
      exact lexes_of_scanLexeme rfl
        (scanLexeme_number (Or.inl rfl) (scanWord?_minus_digit hdigit _) hscan)
  | false =>
      have hspell : n.spelling = .scalar c :: (Text.ofChars cs
          ++ (Numeral.fractionSpelling n.fraction ++ Numeral.exponentSpelling n.exponent)) := by
        rw [Numeral.spelling, hneg, hw]
        rfl
      rw [hspell] at hscan ⊢
      exact lexes_of_scanLexeme (isSpace_digit hdigit)
        (scanLexeme_number (Or.inr ⟨c, rfl, hdigit⟩) (scanWord?_digit hdigit _) hscan)

/-! ## Steps of the machine -/

theorem Lexes.run {written rest : Text} {lexeme : Lexeme} (h : Lexes written lexeme rest)
    {stack stack' : List Frame} {phase phase' : Phase}
    (hadvance : ∀ left, advance stack phase ⟨lexeme, left⟩ = .ok (stack', phase')) :
    Json.run stack phase (tokens (written ++ rest)) = Json.run stack' phase' (tokens rest) := by
  rw [h.tokens_eq, Json.run, hadvance]

/-- A code point that is a token of its own. -/
theorem run_mark {c : CodePoint} (lexeme : Lexeme) (hspace : isSpace c = false)
    (hscan : ∀ rest, scanLexeme c rest = (lexeme, rest)) {stack stack' : List Frame}
    {phase phase' : Phase}
    (hadvance : ∀ left, advance stack phase ⟨lexeme, left⟩ = .ok (stack', phase')) (rest : Text) :
    run stack phase (tokens (c :: rest)) = run stack' phase' (tokens rest) := by
  have hlex : Lexes [c] lexeme rest := lexes_of_scanLexeme hspace (hscan rest)
  exact hlex.run hadvance

/-- A phase in which a value may start, with the frames that are open while the
value is read. -/
inductive Opens (stack : List Frame) : Phase → List Frame → Prop
  | value : Opens stack .value stack
  | firstItem : Opens stack .firstItem (.array [] :: stack)

theorem Opens.advance {stack stack' : List Frame} {phase phase' : Phase}
    (h : Opens stack phase stack') {lexeme : Lexeme} (hclose : lexeme ≠ .closeBracket)
    (hbegin : ∀ left, beginValue ⟨lexeme, left⟩ = .ok phase') :
    ∀ left, Json.advance stack phase ⟨lexeme, left⟩ = .ok (stack', phase') := by
  intro left
  cases h with
  | value =>
      rw [Json.advance, hbegin]
      rfl
  | firstItem =>
      rw [Json.advance]
      split
      · next heq => exact absurd heq hclose
      · rw [hbegin]
        rfl

/-! ## Layouts -/

/-- A layout that puts nothing but white space between tokens. -/
def Layout.Blank : Layout → Prop
  | .line => True
  | .block unit => ∀ c ∈ unit, isSpace c

theorem isSpace_lineBreak {layout : Layout} (h : layout.Blank) (depth : Nat) :
    ∀ c ∈ layout.lineBreak depth, isSpace c := by
  intro c hc
  cases layout with
  | line => simp [Layout.lineBreak] at hc
  | block unit =>
      simp only [Layout.lineBreak, List.mem_cons] at hc
      rcases hc with rfl | hc
      · rfl
      · simp only [Text.times, List.mem_flatten, List.mem_replicate] at hc
        obtain ⟨l, ⟨-, rfl⟩, hc⟩ := hc
        exact h c hc

theorem tokens_lineBreak {layout : Layout} (h : layout.Blank) (depth : Nat) (t : Text) :
    tokens (layout.lineBreak depth ++ t) = tokens t :=
  tokens_spaces (isSpace_lineBreak h depth) t

theorem run_separator {layout : Layout} (h : layout.Blank) (depth : Nat) (t : Text)
    {stack stack' : List Frame} {phase phase' : Phase}
    (hadvance : ∀ left, advance stack phase ⟨.comma, left⟩ = .ok (stack', phase')) :
    run stack phase (tokens (layout.separator depth ++ t)) = run stack' phase' (tokens t) := by
  cases layout with
  | line =>
      have htext : Layout.line.separator depth ++ t = .scalar ',' :: ([.scalar ' '] ++ t) := rfl
      rw [htext, run_mark _ rfl (fun _ => rfl) hadvance, tokens_spaces (by simp [isSpace])]
  | block unit =>
      have htext : (Layout.block unit).separator depth ++ t
          = .scalar ',' :: ((Layout.block unit).lineBreak depth ++ t) := rfl
      rw [htext, run_mark _ rfl (fun _ => rfl) hadvance, tokens_lineBreak h]

theorem run_writeKey {key : Text} (hkey : key.Joined) (t : Text) {stack : List Frame}
    {phase : Phase} {entries : Record Json}
    (hadvance : ∀ left, advance stack phase ⟨.string key, left⟩ = .ok (stack, .colon entries key)) :
    run stack phase (tokens (writeKey key ++ t))
      = run (.object entries key :: stack) .value (tokens t) := by
  have htext : writeKey key ++ t = writeString key ++ (.scalar ':' :: ([.scalar ' '] ++ t)) := by
    simp [writeKey, Text.ofString, Text.ofChars]
  rw [htext, (lexes_string hkey _).run hadvance, run_mark .colon rfl (fun _ => rfl)
    fun _ => rfl, tokens_spaces (by simp [isSpace])]

/-! ## Numbers -/

theorem Opens.run {stack stack' : List Frame} {phase : Phase} (h : Opens stack phase stack')
    {written rest : Text} {lexeme : Lexeme} (hlex : Lexes written lexeme rest)
    (hclose : lexeme ≠ .closeBracket) {phase' : Phase}
    (hbegin : ∀ left, beginValue ⟨lexeme, left⟩ = .ok phase') :
    Json.run stack phase (tokens (written ++ rest)) = Json.run stack' phase' (tokens rest) :=
  hlex.run (h.advance hclose hbegin)

theorem run_writeInt {n : Int} (hn : n.natAbs < 10 ^ maxIntegerDigits) {stack stack' : List Frame}
    {phase : Phase} (h : Opens stack phase stack') {rest : Text} (hrest : rest.EndsNumeral) :
    run stack phase (tokens (Text.ofInt n ++ rest))
      = run stack' (.after (.int n)) (tokens rest) := by
  rw [← Numeral.spelling_ofInt]
  refine h.run (lexes_numeral (Numeral.wellSpelled_ofInt n) hrest) nofun fun _ => ?_
  have hlength : (Numeral.ofInt n).whole.length ≤ maxIntegerDigits :=
    (Nat.length_toDigits_le_iff (by decide) (by decide)).mpr hn
  simp only [beginValue, ofNumeral, Numeral.toInt?_ofInt, if_pos hlength]
  rfl

theorem run_writeFloat {x : Binary64} (hx : x.Canonical) {stack stack' : List Frame}
    {phase : Phase} (h : Opens stack phase stack') {rest : Text} (hrest : rest.EndsNumeral) :
    run stack phase (tokens (x.text floatWords ++ rest))
      = run stack' (.after (.float x)) (tokens rest) := by
  match x with
  | .nan =>
      have hlex : Lexes (Binary64.nan.text floatWords) .nan rest := lexes_of_scanLexeme rfl rfl
      exact h.run hlex nofun fun _ => rfl
  | .infinity negative =>
      have hlex :
          Lexes ((Binary64.infinity negative).text floatWords) (.infinity negative) rest := by
        cases negative <;> exact lexes_of_scanLexeme rfl rfl
      exact h.run hlex nofun fun _ => rfl
  | .finite negative mantissa exponent =>
      obtain ⟨n, hn, hspell, hint, hvalue⟩ := Binary64.exists_numeral_text floatWords negative hx
      rw [← hspell]
      refine h.run (lexes_numeral hn hrest) nofun fun _ => ?_
      simp only [beginValue, ofNumeral, hint, hvalue]
      rfl

/-! ## Arrays and objects -/

theorem endsNumeral_mark {c : Char} (hc : c ∈ [',', ']', '\x7d', '\n']) (t : Text) :
    Text.EndsNumeral (.scalar c :: t) := by
  rintro d ⟨⟩
  simp only [List.mem_cons, List.not_mem_nil, or_false] at hc
  rcases hc with rfl | rfl | rfl | rfl <;> decide

theorem endsNumeral_lineBreak (layout : Layout) (depth : Nat) {t : Text} (h : t.EndsNumeral) :
    (layout.lineBreak depth ++ t).EndsNumeral := by
  cases layout with
  | line => exact h
  | block unit => exact endsNumeral_mark (by decide) _

theorem endsNumeral_separator (layout : Layout) (depth : Nat) (t : Text) :
    (layout.separator depth ++ t).EndsNumeral := by
  cases layout with
  | line => exact endsNumeral_mark (by decide) _
  | block unit => exact endsNumeral_mark (by decide) _

theorem endsNumeral_items (layout : Layout) (depth : Nat) (items : List Json) (t : Text) :
    (writeItems layout (depth + 1) items
      ++ (layout.lineBreak depth ++ .scalar ']' :: t)).EndsNumeral := by
  cases items with
  | nil => exact endsNumeral_lineBreak layout depth (endsNumeral_mark (by decide) _)
  | cons item items =>
      rw [writeItems, List.append_assoc, List.append_assoc]
      exact endsNumeral_separator layout (depth + 1) _

theorem endsNumeral_entries (layout : Layout) (depth : Nat) (entries : Record Json) (t : Text) :
    (writeEntries layout (depth + 1) entries
      ++ (layout.lineBreak depth ++ .scalar '\x7d' :: t)).EndsNumeral := by
  cases entries with
  | nil => exact endsNumeral_lineBreak layout depth (endsNumeral_mark (by decide) _)
  | cons e entries =>
      rw [writeEntries, List.append_assoc, List.append_assoc, List.append_assoc]
      exact endsNumeral_separator layout (depth + 1) _

/-- What it means that a written value is read back: wherever a value may start,
the machine comes out behind the text with the value. -/
def ReadsBack (layout : Layout) (v : Json) : Prop :=
  ∀ (depth : Nat) (stack stack' : List Frame) (phase : Phase) (rest : Text),
    Opens stack phase stack' → rest.EndsNumeral →
      run stack phase (tokens (writeAt layout depth v ++ rest))
        = run stack' (.after v) (tokens rest)

theorem run_items {layout : Layout} (hl : layout.Blank) (depth : Nat) {items : List Json}
    (hitems : ∀ v ∈ items, ReadsBack layout v) (v : Json) (done : List Json)
    (stack : List Frame) (rest : Text) :
    run (.array done :: stack) (.after v) (tokens (writeItems layout (depth + 1) items
        ++ (layout.lineBreak depth ++ .scalar ']' :: rest)))
      = run stack (.after (.array (done.reverse ++ v :: items))) (tokens rest) := by
  induction items generalizing v done with
  | nil =>
      rw [writeItems, List.nil_append, tokens_lineBreak hl,
        run_mark .closeBracket rfl (fun _ => rfl) fun _ => rfl]
      simp
  | cons item items ih =>
      rw [writeItems, List.append_assoc, List.append_assoc, run_separator hl _ _ fun _ => rfl]
      rw [hitems item (by simp) _ _ _ _ _ .value (endsNumeral_items layout depth items rest),
        ih fun v hv => hitems v (by simp [hv])]
      simp

theorem run_entries {layout : Layout} (hl : layout.Blank) (depth : Nat) (done : Record Json)
    {entries : Record Json} (hentries : ∀ e ∈ entries, ReadsBack layout e.2)
    (hkeys : ∀ key ∈ entries.keys, key.Joined) {key : Text} {v : Json}
    (hdistinct : (done ++ (key, v) :: entries).keys.Nodup) (stack : List Frame) (rest : Text) :
    run (.object done key :: stack) (.after v) (tokens (writeEntries layout (depth + 1) entries
        ++ (layout.lineBreak depth ++ .scalar '\x7d' :: rest)))
      = run stack (.after (.object (done ++ (key, v) :: entries))) (tokens rest) := by
  have hfresh := Record.notMem_keys_of_nodup hdistinct
  induction entries generalizing key v done with
  | nil =>
      rw [writeEntries, List.nil_append, tokens_lineBreak hl,
        run_mark .closeBrace rfl (fun _ => rfl) fun _ => rfl,
        Record.insert_of_notMem hfresh]
  | cons e entries ih =>
      obtain ⟨key', v'⟩ := e
      rw [writeEntries, List.append_assoc, List.append_assoc, List.append_assoc,
        run_separator hl _ _ fun _ => rfl,
        run_writeKey (hkeys key' (by simp [Record.keys])) _ fun _ => rfl]
      rw [hentries (key', v') (by simp) _ _ _ _ _ .value
        (endsNumeral_entries layout depth entries rest), Record.insert_of_notMem hfresh]
      -- the entry just read goes over to those that are done
      have hshift : done ++ (key, v) :: (key', v') :: entries
          = (done ++ [(key, v)]) ++ (key', v') :: entries := by simp
      rw [hshift] at hdistinct ⊢
      exact ih _ (fun e he => hentries e (by simp [he]))
        (fun k hk => hkeys k (List.mem_cons_of_mem _ hk)) hdistinct
        (Record.notMem_keys_of_nodup hdistinct)

/-- Every value that reading gives is read back, wherever it stands. -/
theorem Readable.readsBack {layout : Layout} (hl : layout.Blank) {v : Json} (hv : Readable v) :
    ReadsBack layout v := by
  induction hv with
  | null => exact fun _ _ _ _ rest h _ => h.run (lexes_null rest) nofun fun _ => rfl
  | bool b =>
      intro _ _ _ _ rest h _
      cases b with
      | true => exact h.run (lexes_true rest) nofun fun _ => rfl
      | false => exact h.run (lexes_false rest) nofun fun _ => rfl
  | int hn => exact fun _ _ _ _ _ h hrest => run_writeInt hn h hrest
  | float hx => exact fun _ _ _ _ _ h hrest => run_writeFloat hx h hrest
  | string hs => exact fun _ _ _ _ rest h _ => h.run (lexes_string hs rest) nofun fun _ => rfl
  | @array items hitems ih =>
      intro depth stack stack' phase rest h hrest
      cases items with
      | nil =>
          have htext : writeAt layout depth (.array []) ++ rest
              = .scalar '[' :: .scalar ']' :: rest := rfl
          rw [htext, run_mark _ rfl (fun _ => rfl) (h.advance (by nofun) fun _ => rfl),
            run_mark .closeBracket rfl (fun _ => rfl) fun _ => rfl]
      | cons item items =>
          have htext : writeAt layout depth (.array (item :: items)) ++ rest
              = .scalar '[' :: (layout.lineBreak (depth + 1) ++ (writeAt layout (depth + 1) item
                ++ (writeItems layout (depth + 1) items
                  ++ (layout.lineBreak depth ++ .scalar ']' :: rest)))) := by
            simp [writeAt]
          rw [htext, run_mark _ rfl (fun _ => rfl) (h.advance (by nofun) fun _ => rfl),
            tokens_lineBreak hl, ih item (by simp) _ _ _ _ _ .firstItem
              (endsNumeral_items layout depth items rest),
            run_items hl depth fun v hv => ih v (by simp [hv])]
          rfl
  | @object entries hdistinct hkeys hentries ih =>
      intro depth stack stack' phase rest h hrest
      cases entries with
      | nil =>
          have htext : writeAt layout depth (.object []) ++ rest
              = .scalar '\x7b' :: .scalar '\x7d' :: rest := rfl
          rw [htext, run_mark _ rfl (fun _ => rfl) (h.advance (by nofun) fun _ => rfl),
            run_mark .closeBrace rfl (fun _ => rfl) fun _ => rfl]
      | cons e entries =>
          obtain ⟨key, v⟩ := e
          have htext : writeAt layout depth (.object ((key, v) :: entries)) ++ rest
              = .scalar '\x7b' :: (layout.lineBreak (depth + 1) ++ (writeKey key
                ++ (writeAt layout (depth + 1) v ++ (writeEntries layout (depth + 1) entries
                  ++ (layout.lineBreak depth ++ .scalar '\x7d' :: rest))))) := by
            simp [writeAt]
          rw [htext, run_mark _ rfl (fun _ => rfl) (h.advance (by nofun) fun _ => rfl),
            tokens_lineBreak hl, run_writeKey (hkeys key (by simp [Record.keys])) _ fun _ => rfl,
            ih (key, v) (by simp) _ _ _ _ _ .value (endsNumeral_entries layout depth entries rest)]
          exact run_entries hl depth [] (fun e he => ih e (by simp [he]))
            (fun k hk => hkeys k (List.mem_cons_of_mem _ hk)) hdistinct _ _

theorem scanLexeme_byteOrderMark (rest : Text) :
    scanLexeme (.scalar '\uFEFF') rest = (.stray, []) :=
  rfl

theorem endsNumeral_spaces {ws : Text} (hws : ∀ c ∈ ws, isSpace c) : ws.EndsNumeral := by
  intro c hc
  have hspace := hws _ (List.mem_of_mem_head? hc)
  simp only [isSpace, Bool.or_eq_true, decide_eq_true_eq, CodePoint.scalar.injEq] at hspace
  rcases hspace with ((rfl | rfl) | rfl) | rfl <;> decide

/-- A byte order mark in front stops the machine as well. -/
theorem run_byteOrderMark (rest : Text) :
    run [] .value (tokens (.scalar '\uFEFF' :: rest))
      = .error (.complain .value (rest.length + 1)) := by
  rw [tokens_eq, List.dropWhile_cons_of_neg (by decide)]
  simp only [scanLexeme_byteOrderMark]
  rfl

/-- What is read is what the machine gives, complaints apart. -/
theorem read_eq_iff_run (t : Text) :
    (∀ v, read t = .ok v ↔ run [] .value (tokens t) = .ok v)
      ∧ ∀ count, read t = .error (.tooManyDigits count)
        ↔ run [] .value (tokens t) = .error (.tooManyDigits count) := by
  unfold read
  split
  · rw [run_byteOrderMark]
    simp
  · cases run [] .value (tokens t) with
    | ok v => simp
    | error stop => cases stop <;> simp

/-- A written value is read back, whatever white space follows it. -/
theorem read_write_spaces {layout : Layout} (hl : layout.Blank) {v : Json} (hv : Readable v)
    {ws : Text} (hws : ∀ c ∈ ws, isSpace c) : read (write layout v ++ ws) = .ok v := by
  rw [(read_eq_iff_run _).1, write,
    hv.readsBack hl 0 [] [] .value ws .value (endsNumeral_spaces hws), tokens_eq,
    List.dropWhile_eq_nil_iff.mpr hws]
  rfl

/-- A written value is read back. -/
theorem read_write {layout : Layout} (hl : layout.Blank) {v : Json} (hv : Readable v) :
    read (write layout v) = .ok v := by
  have hread : read (write layout v ++ []) = .ok v := read_write_spaces hl hv (by simp)
  rwa [List.append_nil] at hread

end SecurityRules.Json
