import SecurityRules.Proofs.DecodedSchema
import SecurityRules.Proofs.DocumentLines
import SecurityRules.Proofs.RulesText

/-!
# A rules document says what its schema says

Two schemas have the same document exactly if they have the same rules: position
by position the same names, clauses and access settings, and the same owner
field where one is asked for. The proof reads a document back, block by block.
The name of a model stands twice in the line that opens its access block, and
the owner field in whichever of two lines asks for it.

A value is put into a line as it is, so none of them may hold a line feed.
-/

namespace SecurityRules

/-! ## From blocks to rules -/

/-- What the documents of two models have to agree on. -/
structure SameRules (m n : Model) : Prop where
  name : m.name = n.name
  clauses : m.clauses.map Clause.text = n.clauses.map Clause.text
  readAll : m.readAll = n.readAll
  readOne : m.readOne = n.readOne
  create : m.create = n.create
  update : m.update = n.update
  delete : m.delete = n.delete
  owner : m.update ∨ m.delete → m.effectiveOwner = n.effectiveOwner

/-- No clause reads as the empty conjunction does, or starts with a tab. -/
theorem Clause.head?_text (c : Clause) :
    ∃ d ∈ ['d', '(', 'v'], c.text.head? = some (.scalar d) := by
  cases c with
  | hasType | matchesPattern | lengthAtMost | lengthAtLeast => exact ⟨'d', by decide, rfl⟩
  | emptyOrMatches => exact ⟨'(', by decide, rfl⟩
  | validates => exact ⟨'v', by decide, rfl⟩

theorem conjunction_ne_nil (ts : List Text) : conjunction ts ≠ [] := by
  cases ts with
  | nil => nofun
  | cons t ts => cases ts <;> nofun

theorem conjunction_injective {ts us : List Text} (hts : ∀ t ∈ ts, t ≠ "true")
    (hus : ∀ u ∈ us, u ≠ "true") (h : conjunction ts = conjunction us) : ts = us := by
  have htrue : Text.ofString "true;" = "true" ++ ";" := by decide
  induction ts using conjunction.induct generalizing us with
  | case1 =>
      rcases us with _ | ⟨u, _ | ⟨v, us⟩⟩
      · rfl
      · simp only [conjunction, htrue, List.cons.injEq, List.append_cancel_right_eq] at h
        exact absurd h.1.symm (hus u (by simp))
      · exact absurd (List.cons.inj h).2.symm (conjunction_ne_nil (v :: us))
  | case2 t =>
      rcases us with _ | ⟨u, _ | ⟨v, us⟩⟩
      · simp only [conjunction, htrue, List.cons.injEq, List.append_cancel_right_eq] at h
        exact absurd h.1 (hts t (by simp))
      · simp only [conjunction, List.cons.injEq, List.append_cancel_right_eq, and_true] at h
        rw [h]
      · exact absurd (List.cons.inj h).2.symm (conjunction_ne_nil (v :: us))
  | case3 t ts hne ih =>
      rw [conjunction.eq_3 _ _ hne] at h
      rcases us with _ | ⟨u, _ | ⟨v, us⟩⟩
      · exact absurd (List.cons.inj h).2 (conjunction_ne_nil ts)
      · exact absurd (List.cons.inj h).2 (conjunction_ne_nil ts)
      · obtain ⟨hhead, htail⟩ := List.cons.inj h
        rw [List.append_cancel_right hhead, ih (fun t ht => hts t (by simp [ht]))
          (fun u hu => hus u (List.mem_cons_of_mem _ hu)) htail]

theorem Clause.text_ne_true (c : Clause) : c.text ≠ "true" := by
  intro h
  obtain ⟨d, hd, hhead⟩ := c.head?_text
  rw [h] at hhead
  have hfirst : some (CodePoint.scalar 't') = some (.scalar d) := hhead
  simp only [Option.some.injEq, CodePoint.scalar.injEq] at hfirst
  rw [← hfirst] at hd
  exact absurd hd (by decide)

theorem Model.clauses_of_validatorLines {m n : Model} (h : m.validatorLines = n.validatorLines) :
    m.clauses.map Clause.text = n.clauses.map Clause.text := by
  have htrue : ∀ m : Model, ∀ t ∈ m.clauses.map Clause.text, t ≠ "true" := by
    intro m t ht
    obtain ⟨c, -, rfl⟩ := List.mem_map.mp ht
    exact c.text_ne_true
  refine conjunction_injective (htrue m) (htrue n) ?_
  simp only [Model.validatorLines, functionLines, List.cons_append, List.nil_append,
    List.cons.injEq, List.append_cancel_right_eq] at h
  exact List.map_injective_iff.mpr (fun _ _ heq => (Line.mk.inj heq).2) h.2.2

theorem Model.name_of_accessLines {m n : Model} (h : m.accessLines = n.accessLines) :
    m.name = n.name := by
  simp only [Model.accessLines, SecurityRules.accessLines, List.cons_append, List.cons.injEq,
    Line.mk.injEq, true_and, List.append_assoc, List.append_cancel_left_eq] at h
  -- the name stands twice in the line, so lines of one length have names of one length
  have hlength := congrArg List.length h.1
  simp only [List.length_append] at hlength
  exact (List.append_inj h.1 (by omega)).1

theorem Guard.text_injective {g g' : Guard} (h : g.text = g'.text) : g = g' := by
  match g, g', h with
  | .anyone, .anyone, _ | .signedIn, .signedIn, _ => rfl
  | .anyone, .signedIn, h | .signedIn, .anyone, h => exact absurd h (by decide)
  | .anyone, .owner _, h =>
      have hhead : some (CodePoint.scalar 't') = some (.scalar 'r') := congrArg List.head? h
      exact absurd hhead (by decide)
  | .owner _, .anyone, h =>
      have hhead : some (CodePoint.scalar 'r') = some (.scalar 't') := congrArg List.head? h
      exact absurd hhead (by decide)
  -- a guard on the owner starts as the one on signing in does, but it goes on
  | .signedIn, .owner _, h =>
      have hlength := congrArg List.length h
      simp [Guard.text, Text.ofString, Text.ofChars] at hlength
  | .owner _, .signedIn, h =>
      have hlength := congrArg List.length h
      simp [Guard.text, Text.ofString, Text.ofChars] at hlength
  | .owner field, .owner field', h =>
      simp only [Guard.text, List.append_cancel_right_eq, List.append_cancel_left_eq] at h
      rw [h]

theorem Guard.when_injective {b b' : Bool} {g g' : Guard} (hg : g ≠ .anyone) (hg' : g' ≠ .anyone)
    (h : Guard.when b g = Guard.when b' g') : b = b' ∧ (b → g = g') := by
  cases b with
  | false =>
      cases b' with
      | false => exact ⟨rfl, nofun⟩
      | true => exact absurd h.symm hg'
  | true =>
      cases b' with
      | false => exact absurd h hg
      | true => exact ⟨rfl, fun _ => h⟩

theorem Allowance.guard_of_text {o : Operation} {g g' : Guard} {validator : Option Text}
    (h : Allowance.text ⟨o, g, validator⟩ = Allowance.text ⟨o, g', validator⟩) : g = g' := by
  simp only [Allowance.text, List.append_cancel_right_eq, List.append_cancel_left_eq] at h
  exact Guard.text_injective h

theorem Model.ownerGuard_ne_anyone (m : Model) : m.ownerGuard ≠ .anyone := by
  unfold Model.ownerGuard
  cases m.effectiveOwner <;> nofun

theorem Model.effectiveOwner_of_ownerGuard {m n : Model} (h : m.ownerGuard = n.ownerGuard) :
    m.effectiveOwner = n.effectiveOwner := by
  unfold Model.ownerGuard at h
  cases hm : m.effectiveOwner <;> cases hn : n.effectiveOwner <;> simp_all

theorem Model.allowances_of_accessLines {m n : Model} (h : m.accessLines = n.accessLines) :
    m.allowances.map Allowance.text = n.allowances.map Allowance.text := by
  simp only [Model.accessLines, SecurityRules.accessLines, List.cons_append, List.cons.injEq,
    List.nil_append, List.append_cancel_right_eq] at h
  have hcontents := congrArg (List.map Line.content) h.2
  simpa [Function.comp_def] using hcontents

/-- What is allowed on the documents of a model without changing them. -/
def Model.reading (m : Model) : List Allowance :=
  match m.readOne with
  | none => [⟨.read, .when m.readAll .signedIn, none⟩]
  | some readOne =>
      [⟨.get, .when readOne .signedIn, none⟩, ⟨.list, .when m.readAll .signedIn, none⟩]

def Model.writing (m : Model) : List Allowance :=
  [⟨.create, .when m.create .signedIn, some (validatorName m.name)⟩,
   ⟨.update, .when m.update m.ownerGuard, some (validatorName m.name)⟩,
   ⟨.delete, .when m.delete m.ownerGuard, none⟩]

theorem Model.allowances_eq (m : Model) : m.allowances = m.reading ++ m.writing :=
  rfl

theorem Allowance.when_of_text {o : Operation} {b b' : Bool} {g g' : Guard}
    {validator : Option Text} (hg : g ≠ .anyone) (hg' : g' ≠ .anyone)
    (h : Allowance.text ⟨o, .when b g, validator⟩ = Allowance.text ⟨o, .when b' g', validator⟩) :
    b = b' ∧ (b → g = g') :=
  Guard.when_injective hg hg' (Allowance.guard_of_text h)

theorem Allowance.signedIn_of_text {o : Operation} {b b' : Bool} {validator : Option Text}
    (h : Allowance.text ⟨o, .when b .signedIn, validator⟩
      = Allowance.text ⟨o, .when b' .signedIn, validator⟩) : b = b' := by
  have hne : Guard.signedIn ≠ .anyone := nofun
  exact (Allowance.when_of_text hne hne h).1

theorem Model.reading_of_text {m n : Model}
    (h : m.reading.map Allowance.text = n.reading.map Allowance.text) :
    m.readAll = n.readAll ∧ m.readOne = n.readOne := by
  unfold Model.reading at h
  match hm : m.readOne, hn : n.readOne with
  | none, none =>
      simp only [hm, hn, List.map_cons, List.cons.injEq] at h
      exact ⟨Allowance.signedIn_of_text h.1, rfl⟩
  | some required, some required' =>
      simp only [hm, hn, List.map_cons, List.cons.injEq] at h
      have hone := Allowance.signedIn_of_text h.1
      have hall := Allowance.signedIn_of_text h.2.1
      exact ⟨hall, by rw [hone]⟩
  | none, some _ | some _, none =>
      simp only [hm, hn] at h
      exact absurd (congrArg List.length h) (by simp)

theorem Model.writing_of_text {m n : Model} (hname : m.name = n.name)
    (h : m.writing.map Allowance.text = n.writing.map Allowance.text) :
    m.create = n.create ∧ m.update = n.update ∧ m.delete = n.delete
      ∧ (m.update ∨ m.delete → m.effectiveOwner = n.effectiveOwner) := by
  simp only [Model.writing, hname, List.map_cons, List.cons.injEq] at h
  have hcreate := Allowance.signedIn_of_text h.1
  obtain ⟨hupdate, howner⟩ :=
    Allowance.when_of_text m.ownerGuard_ne_anyone n.ownerGuard_ne_anyone h.2.1
  obtain ⟨hdelete, howner'⟩ :=
    Allowance.when_of_text m.ownerGuard_ne_anyone n.ownerGuard_ne_anyone h.2.2.1
  refine ⟨hcreate, hupdate, hdelete, fun hrequired => ?_⟩
  exact Model.effectiveOwner_of_ownerGuard (hrequired.elim howner howner')

theorem sameRules_of_lines {m n : Model} (hvalidator : m.validatorLines = n.validatorLines)
    (haccess : m.accessLines = n.accessLines) : SameRules m n := by
  have hname := Model.name_of_accessLines haccess
  have htexts := Model.allowances_of_accessLines haccess
  rw [Model.allowances_eq, Model.allowances_eq, List.map_append, List.map_append] at htexts
  obtain ⟨hreading, hwriting⟩ := List.append_inj' htexts rfl
  obtain ⟨hall, hone⟩ := Model.reading_of_text hreading
  obtain ⟨hcreate, hupdate, hdelete, howner⟩ := Model.writing_of_text hname hwriting
  exact ⟨hname, Model.clauses_of_validatorLines hvalidator, hall, hone, hcreate, hupdate, hdelete,
    howner⟩

theorem SameRules.validatorLines_eq {m n : Model} (h : SameRules m n) :
    m.validatorLines = n.validatorLines := by
  rw [Model.validatorLines, Model.validatorLines, h.name, h.clauses]

theorem SameRules.accessLines_eq {m n : Model} (h : SameRules m n) :
    m.accessLines = n.accessLines := by
  have hguard : ∀ b : Bool, (b → m.update ∨ m.delete) →
      Guard.when b m.ownerGuard = Guard.when b n.ownerGuard := by
    intro b hb
    cases b with
    | false => rfl
    | true => rw [Model.ownerGuard, Model.ownerGuard, h.owner (hb rfl)]
  have hreading : m.reading = n.reading := by
    rw [Model.reading, Model.reading, h.readOne, h.readAll]
  have hwriting : m.writing = n.writing := by
    rw [Model.writing, Model.writing, hguard m.update Or.inl, hguard m.delete Or.inr, h.name,
      h.create, h.update, h.delete]
  rw [Model.accessLines, Model.accessLines, Model.allowances_eq, Model.allowances_eq, hreading,
    hwriting, h.name]

/-! ## Documents -/

theorem isBlock_validatorLines (m : Model) :
    IsBlock (fun line => line.content.head? = some (.scalar 'f')) m.validatorLines := by
  refine ⟨⟨2, _⟩, ⟨3, "return"⟩ :: (conjunction (m.clauses.map Clause.text)).map (⟨4, ·⟩), rfl, rfl,
    ?_⟩
  intro line hline
  rcases List.mem_cons.mp hline with rfl | hline
  · decide
  · obtain ⟨t, -, rfl⟩ := List.mem_map.mp hline
    show 4 ≠ 2
    decide

theorem isBlock_accessLines (m : Model) : IsBlock (fun line => line.depth = 2) m.accessLines := by
  refine ⟨⟨2, _⟩, m.allowances.map fun a => ⟨3, a.text⟩, rfl, rfl, ?_⟩
  intro line hline
  obtain ⟨a, -, rfl⟩ := List.mem_map.mp hline
  show 3 ≠ 2
  decide

theorem head?_accessLines (s : Schema) :
    ∀ line ∈ ((s.map Model.accessLines).flatten ++ closingLines).head?,
      line.content.head? ≠ some (.scalar 'f') := by
  intro line hline
  cases s with
  | nil =>
      cases hline
      decide
  | cons m s =>
      cases hline
      have hhead : (Text.ofString "match /" ++ m.name ++ "/\x7b" ++ m.name
          ++ "Document\x7d \x7b").head? = some (.scalar 'm') := rfl
      rw [hhead]
      decide

theorem Schema.documentLines_eq_iff {a b : Schema} :
    a.documentLines = b.documentLines ↔ List.Forall₂ SameRules a b := by
  constructor
  · intro h
    simp only [Schema.documentLines, frame, List.append_assoc, List.append_cancel_left_eq] at h
    -- the functions end where no line opens a function, the access blocks where the depth drops
    obtain ⟨hvalidators, hrest⟩ :=
      blocks_cancel isBlock_validatorLines (head?_accessLines a) (head?_accessLines b) h
    have hclosing : ∀ line ∈ closingLines.head?, ¬ line.depth = 2 := by decide
    obtain ⟨haccess, -⟩ := blocks_cancel isBlock_accessLines hclosing hclosing hrest
    clear h hrest
    induction hvalidators with
    | nil => exact .nil
    | cons hvalidator _ ih =>
        cases haccess with
        | cons haccess hmore => exact .cons (sameRules_of_lines hvalidator haccess) (ih hmore)
  · intro h
    have hvalidators : a.map Model.validatorLines = b.map Model.validatorLines := by
      induction h with
      | nil => rfl
      | cons h _ ih => rw [List.map_cons, List.map_cons, h.validatorLines_eq, ih]
    have haccess : a.map Model.accessLines = b.map Model.accessLines := by
      induction h with
      | nil => rfl
      | cons h _ ih =>
          rw [List.map_cons, List.map_cons, h.accessLines_eq, ih (List.cons.inj hvalidators).2]
    rw [Schema.documentLines, Schema.documentLines, hvalidators, haccess]

/-! ## Plain lines -/

theorem mem_conjunction {ts : List Text} {t : Text} (h : t ∈ conjunction ts) :
    t = "true;" ∨ ∃ u ∈ ts, ∃ ending, t = u ++ ending := by
  induction ts using conjunction.induct with
  | case1 => exact Or.inl (List.mem_singleton.mp h)
  | case2 u => exact Or.inr ⟨u, by simp, ";", List.mem_singleton.mp h⟩
  | case3 u ts hne ih =>
      rw [conjunction.eq_3 _ _ hne] at h
      rcases List.mem_cons.mp h with rfl | h
      · exact Or.inr ⟨u, by simp, " &&", rfl⟩
      · rcases ih h with rfl | ⟨v, hv, ending, rfl⟩
        · exact Or.inl rfl
        · exact Or.inr ⟨v, List.mem_cons_of_mem _ hv, ending, rfl⟩

theorem Model.front_validatorLines (m : Model) :
    ∀ line ∈ m.validatorLines, line.content.head? ≠ some (.scalar '\t') := by
  intro line hline
  simp only [Model.validatorLines, functionLines, List.cons_append, List.nil_append, List.mem_cons,
    List.mem_append, List.mem_map, List.not_mem_nil, or_false] at hline
  rcases hline with rfl | rfl | ⟨t, ht, rfl⟩ | rfl
  · rintro ⟨⟩
  · decide
  · rcases mem_conjunction ht with rfl | ⟨u, hu, ending, rfl⟩
    · decide
    · obtain ⟨c, -, rfl⟩ := List.mem_map.mp hu
      obtain ⟨d, hd, hhead⟩ := c.head?_text
      rw [List.head?_append, hhead]
      intro h
      cases h
      exact absurd hd (by decide)
  · decide

theorem Model.front_accessLines (m : Model) :
    ∀ line ∈ m.accessLines, line.content.head? ≠ some (.scalar '\t') := by
  intro line hline
  simp only [Model.accessLines, SecurityRules.accessLines, List.cons_append, List.nil_append,
    List.mem_cons, List.mem_append, List.mem_map, List.not_mem_nil, or_false] at hline
  rcases hline with rfl | ⟨a, -, rfl⟩ | rfl
  · rintro ⟨⟩
  · rintro ⟨⟩
  · decide

theorem Schema.front_documentLines (s : Schema) :
    ∀ line ∈ s.documentLines, line.content.head? ≠ some (.scalar '\t') := by
  intro line hline
  simp only [Schema.documentLines, frame, List.mem_append, List.mem_flatten, List.mem_map] at hline
  rcases hline with (((hline | hline) | ⟨_, ⟨m, -, rfl⟩, hline⟩) | ⟨_, ⟨m, -, rfl⟩, hline⟩) | hline
  · exact (by decide : ∀ line ∈ openingLines, line.content.head? ≠ some (.scalar '\t')) line hline
  · exact (by decide : ∀ line ∈ ownershipLines, line.content.head? ≠ some (.scalar '\t')) line hline
  · exact m.front_validatorLines line hline
  · exact m.front_accessLines line hline
  · exact (by decide : ∀ line ∈ closingLines, line.content.head? ≠ some (.scalar '\t')) line hline

/-! ## Values without a line feed -/

/-- No name, type or pattern of a model holds a line feed. -/
structure Model.OneLine (m : Model) : Prop where
  name : .scalar '\n' ∉ m.name
  fields : ∀ f ∈ m.fields, .scalar '\n' ∉ f.name
  types : ∀ f ∈ m.fields, ∀ t, (Kind.type, Json.string t) ∈ f.constraints → .scalar '\n' ∉ t
  patterns : ∀ f ∈ m.fields, ∀ t, (Kind.regex, Json.string t) ∈ f.constraints → .scalar '\n' ∉ t

theorem lineFeed_notMem_ofInt (n : Int) : .scalar '\n' ∉ Text.ofInt n := by
  have hdigits : .scalar '\n' ∉ Text.ofNat n.natAbs := by
    intro hmem
    obtain ⟨c, hc, heq⟩ := List.mem_map.mp hmem
    cases heq
    exact absurd (isDigits_toDigits n.natAbs |>.2 _ hc) (by decide)
  unfold Text.ofInt
  split
  · rw [List.mem_cons]
    exact fun hmem => hmem.elim (by nofun) hdigits
  · exact hdigits

theorem Field.operands_clause? {f : Field} {kind : Kind} {value : Json} {c : Clause}
    (h : f.clause? kind value = some c) :
    value ≠ .null ∧ kind ≠ .canBeEmpty ∧ c.operands = [f.name, value.display] := by
  unfold Field.clause? at h
  split at h
  · cases h
  · next hblank =>
      have hnull : value ≠ .null := by
        rintro rfl
        exact hblank rfl
      cases kind with
      | type | regex =>
          simp only at h
          split at h <;> cases h <;> exact ⟨hnull, nofun, rfl⟩
      | minLength | maxLength =>
          cases h
          exact ⟨hnull, nofun, rfl⟩
      | canBeEmpty => cases h

theorem Field.admits_of_mem_constraints {f : Field} (h : NormalRules f.rules) {kind : Kind}
    {value : Json} (hmem : (kind, value) ∈ f.constraints) (hnull : value ≠ .null) :
    kind.admits value := by
  obtain ⟨⟨key, v⟩, hrule, hkind⟩ := List.mem_filterMap.mp hmem
  obtain ⟨kind', hkey, heq⟩ := Option.map_eq_some_iff.mp hkind
  cases heq
  exact ((h _ hrule).typed kind hkey).resolve_left hnull

theorem Model.OneLine.notMem_display {m : Model} (h : m.OneLine)
    (hnormal : ∀ f ∈ m.fields, NormalRules f.rules) {f : Field} (hf : f ∈ m.fields) {kind : Kind}
    {value : Json} (hmem : (kind, value) ∈ f.constraints) (hnull : value ≠ .null)
    (hkind : kind ≠ .canBeEmpty) : .scalar '\n' ∉ value.display := by
  have hadmits := Field.admits_of_mem_constraints (hnormal f hf) hmem hnull
  match kind, value, hadmits with
  | .type, .string t, _ => exact h.types f hf t hmem
  | .regex, .string t, _ => exact h.patterns f hf t hmem
  | .minLength, .int n, _ | .maxLength, .int n, _ => exact lineFeed_notMem_ofInt n
  | .canBeEmpty, .bool _, _ => exact absurd rfl hkind

theorem Model.mem_fieldNames_of_effectiveOwner {m : Model} {owner : Text}
    (h : m.effectiveOwner = some owner) : owner ∈ m.fieldNames := by
  unfold Model.effectiveOwner at h
  split at h
  · next husable =>
      cases h
      simp only [Bool.and_eq_true, List.contains_iff_mem] at husable
      exact husable.2
  · cases h

theorem Model.OneLine.insertions {m : Model} (h : m.OneLine)
    (hnormal : ∀ f ∈ m.fields, NormalRules f.rules) :
    ∀ t ∈ m.insertions, .scalar '\n' ∉ t := by
  intro t ht
  simp only [Model.insertions, List.mem_cons, List.mem_append, Option.mem_toList,
    List.mem_flatMap] at ht
  rcases ht with rfl | howner | ⟨c, hc, ht⟩
  · exact h.name
  · unfold Model.guardingOwner at howner
    split at howner
    · obtain ⟨f, hf, rfl⟩ := List.mem_map.mp (Model.mem_fieldNames_of_effectiveOwner howner)
      exact h.fields f hf
    · cases howner
  · obtain ⟨f, hf, hclause⟩ := List.mem_flatMap.mp hc
    obtain ⟨⟨kind, value⟩, hmem, hclause⟩ := List.mem_filterMap.mp hclause
    obtain ⟨hnull, hkind, hoperands⟩ := Field.operands_clause? hclause
    rw [hoperands] at ht
    simp only [List.mem_cons, List.not_mem_nil, or_false] at ht
    rcases ht with rfl | rfl
    · exact h.fields f hf
    · exact h.notMem_display hnormal hf hmem hnull hkind

theorem Schema.plain_documentLines {s : Schema} (h : ∀ m ∈ s, m.OneLine)
    (hnormal : ∀ m ∈ s, ∀ f ∈ m.fields, NormalRules f.rules) :
    ∀ line ∈ s.documentLines, line.Plain := by
  have hcontrol : CodePoint.IsControl (.scalar '\n') := by decide
  intro line hline
  refine ⟨fun hmem => ?_, s.front_documentLines line hline⟩
  have hcontents : .scalar '\n' ∈ contents s.documentLines :=
    List.mem_flatMap.mpr ⟨line, hline, hmem⟩
  obtain ⟨m, hm, t, ht, hfeed⟩ := hcontrol.mem_documentLines.mp hcontents
  exact (h m hm).insertions (hnormal m hm) t ht hfeed

/-- Documents are equal exactly if the rules are: the text determines them, and
nothing else goes into it. -/
theorem Schema.compile_eq_iff {v w : Json} {a b : Schema} (ha : Schema.ofJson v = .ok a)
    (hb : Schema.ofJson w = .ok b) (hla : ∀ m ∈ a, m.OneLine) (hlb : ∀ m ∈ b, m.OneLine) :
    a.compile = b.compile ↔ List.Forall₂ SameRules a b := by
  have hplain : ∀ {v : Json} {s : Schema}, Schema.ofJson v = .ok s → (∀ m ∈ s, m.OneLine) →
      ∀ line ∈ s.documentLines, line.Plain := by
    intro v s hs hl
    refine Schema.plain_documentLines hl fun m hm f hf => ?_
    exact ((inherited_true.holds_of_ofJson trivial hs m hm).fields f hf).normal
  rw [← Schema.documentLines_eq_iff]
  constructor
  · intro h
    exact linesText_tab_injective (hplain ha hla) (hplain hb hlb) nofun nofun h
  · intro h
    rw [Schema.compile, Schema.compile, h]

/-- An owner field that no field bears out and a rule of no known kind leave no
trace in the document. -/
theorem Schema.compile_eq_iff_traceless :
    ∃ v w a b, Schema.ofJson v = .ok a ∧ Schema.ofJson w = .ok b ∧ a ≠ b
      ∧ a.compile = b.compile := by
  have ha : Schema.ofJson (.object [("a", .object [("f", .object [("type", .string "string")])])])
      = .ok [{ name := "a", fields := [{ name := "f", rules := [("type", .string "string")] }] }] :=
    rfl
  have hb : Schema.ofJson (.array [.object [("name", .string "a"), ("ownerField", .string "g"),
        ("updateAuthRequired", .bool false), ("fields", .array [.object [("name", .string "f"),
          ("rules", .object [("note", .int 1), ("type", .string "string")])]])]])
      = .ok [{ name := "a", owner := "g", fields :=
          [{ name := "f", rules := [("note", .int 1), ("type", .string "string")] }] }] :=
    rfl
  have hline : ∀ owner : Text, ∀ rules : Record Json,
      Field.constraints ⟨"f", rules⟩ = [(.type, .string "string")] →
        ∀ m ∈ [({ name := "a", owner, fields := [⟨"f", rules⟩] } : Model)], m.OneLine := by
    intro owner rules hconstraints m hm
    have hletter : CodePoint.scalar '\n' ∉ Text.ofString "a"
        ∧ CodePoint.scalar '\n' ∉ Text.ofString "f" := by decide
    rw [List.mem_singleton.mp hm]
    refine ⟨hletter.1, ?_, ?_, ?_⟩
    · intro f hf
      rw [List.mem_singleton.mp hf]
      exact hletter.2
    · intro f hf t ht
      rw [List.mem_singleton.mp hf, hconstraints] at ht
      cases List.mem_singleton.mp ht
      decide
    · intro f hf t ht
      rw [List.mem_singleton.mp hf, hconstraints] at ht
      cases List.mem_singleton.mp ht
  refine ⟨_, _, _, _, ha, hb, by decide, ?_⟩
  refine (Schema.compile_eq_iff ha hb (hline _ _ rfl) (hline _ _ rfl)).mpr (.cons ?_ .nil)
  exact ⟨rfl, rfl, rfl, rfl, rfl, rfl, rfl, nofun⟩

end SecurityRules
