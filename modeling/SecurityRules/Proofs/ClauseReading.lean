import SecurityRules.Proofs.CompiledRules

/-!
# Clauses tell the constraints they come from

Where the names of fields are made of letters, digits and underscores, the clauses
of a model can be read back: each tells its field, its kind and its value, and for
a pattern whether the field may be left empty. Only the name of a model that a type
refers to comes out in capitals.

A value may hold anything, also what looks like another clause, so a clause is read
from where its text is fixed. All but one start with their field, and the words
after the field tell the shape. The call of another validation function starts with
the name of a model, which may be any text; it is read from its end.
-/

namespace SecurityRules

/-! ## Constraints that have a clause -/

/-- A letter, a digit or an underscore, as far as ASCII goes. -/
def CodePoint.IsWord : CodePoint → Prop
  | .scalar c => c.isAlphanum ∨ c = '_'
  | .surrogate _ => False

instance : DecidablePred CodePoint.IsWord
  | .scalar c => inferInstanceAs (Decidable (c.isAlphanum ∨ c = '_'))
  | .surrogate _ => isFalse id

/-- A text of letters, digits and underscores. -/
def Text.IsWord (t : Text) : Prop :=
  ∀ c ∈ t, c.IsWord

instance (t : Text) : Decidable t.IsWord :=
  inferInstanceAs (Decidable (∀ c ∈ t, c.IsWord))

/-- A constraint of a field, together with the leave of the field to be empty. -/
structure Contribution where
  field : Text
  kind : Kind
  value : Json
  mayBeEmpty : Bool

/-- The constraints of a field that are not blank, in order. Leave to be empty is none
by itself. -/
def Field.contributions (f : Field) : List Contribution :=
  (f.constraints.filter fun (kind, value) => kind ≠ .canBeEmpty && !value.isBlank).map
    fun (kind, value) => ⟨f.name, kind, value, f.canBeEmpty⟩

def Model.contributions (m : Model) : List Contribution :=
  m.fields.flatMap Field.contributions

/-- Two constraints that the rules do not tell apart: the leave to be empty counts for
patterns, and of the names of models the capitalised form. -/
structure Contribution.Same (c d : Contribution) : Prop where
  field : c.field = d.field
  kind : c.kind = d.kind
  value : c.value = d.value ∨ c.kind = .type ∧ ∃ s t, c.value = .string s ∧ d.value = .string t
    ∧ ¬ isPrimitiveType s ∧ ¬ isPrimitiveType t ∧ capitalize s = capitalize t
  mayBeEmpty : c.kind = .regex → c.mayBeEmpty = d.mayBeEmpty

/-- The clause that a constraint has. -/
inductive Contribution.Has : Contribution → Clause → Prop
  | builtIn {field t : Text} {empty : Bool} (h : isPrimitiveType t) :
      Has ⟨field, .type, .string t, empty⟩ (.hasType field t)
  | model {field t : Text} {empty : Bool} (h : ¬ isPrimitiveType t) :
      Has ⟨field, .type, .string t, empty⟩ (.validates field t)
  | pattern {field t : Text} : Has ⟨field, .regex, .string t, false⟩ (.matchesPattern field t)
  | patternOrEmpty {field t : Text} :
      Has ⟨field, .regex, .string t, true⟩ (.emptyOrMatches field t)
  | atLeast {field : Text} {n : Int} {empty : Bool} :
      Has ⟨field, .minLength, .int n, empty⟩ (.lengthAtLeast field (Text.ofInt n))
  | atMost {field : Text} {n : Int} {empty : Bool} :
      Has ⟨field, .maxLength, .int n, empty⟩ (.lengthAtMost field (Text.ofInt n))

theorem Field.has_clause? (f : Field) {kind : Kind} {value : Json} (hadmits : kind.admits value)
    (hkind : kind ≠ .canBeEmpty) (hfilled : value.isBlank = false) :
    ∃ c, f.clause? kind value = some c
      ∧ Contribution.Has ⟨f.name, kind, value, f.canBeEmpty⟩ c := by
  unfold Field.clause?
  rw [if_neg (by simp [hfilled])]
  match kind, value, hadmits with
  | .type, .string t, _ =>
      by_cases hprimitive : isPrimitiveType t
      · exact ⟨_, if_pos hprimitive, .builtIn hprimitive⟩
      · exact ⟨_, if_neg hprimitive, .model hprimitive⟩
  | .regex, .string t, _ =>
      cases hempty : f.canBeEmpty with
      | true => exact ⟨_, rfl, .patternOrEmpty⟩
      | false => exact ⟨_, rfl, .pattern⟩
  | .minLength, .int n, _ => exact ⟨_, rfl, .atLeast⟩
  | .maxLength, .int n, _ => exact ⟨_, rfl, .atMost⟩
  | .canBeEmpty, .bool _, _ => exact absurd rfl hkind

theorem Field.clause?_of_not_contributes (f : Field) {kind : Kind} {value : Json}
    (h : (kind ≠ .canBeEmpty && !value.isBlank) = false) : f.clause? kind value = none := by
  unfold Field.clause?
  cases hblank : value.isBlank with
  | true => rfl
  | false =>
      have hkind : kind = .canBeEmpty := by simpa [hblank] using h
      rw [hkind]
      rfl

/-- The clauses of a field are those of its constraints, one each and in order. -/
theorem Field.has_clauses {f : Field} (h : NormalRules f.rules) :
    List.Forall₂ Contribution.Has f.contributions f.clauses := by
  have hadmits : ∀ e ∈ f.constraints, e.2 ≠ .null → e.1.admits e.2 :=
    fun e he => Field.admits_of_mem_constraints h he
  unfold Field.contributions Field.clauses
  generalize f.constraints = constraints at hadmits
  induction constraints with
  | nil => exact .nil
  | cons e constraints ih =>
      obtain ⟨kind, value⟩ := e
      have hrest := ih fun e he => hadmits e (List.mem_cons_of_mem _ he)
      rw [List.filter_cons, List.filterMap_cons]
      cases hcontributes : (kind ≠ .canBeEmpty && !value.isBlank) with
      | false =>
          simp only [f.clause?_of_not_contributes hcontributes, hcontributes]
          exact hrest
      | true =>
          simp only [ne_eq, decide_not, Bool.and_eq_true, Bool.not_eq_true',
            decide_eq_false_iff_not] at hcontributes
          have hnull : value ≠ .null := by
            rintro rfl
            exact absurd hcontributes.2 (by decide)
          obtain ⟨c, hc, hhas⟩ := f.has_clause? (hadmits (kind, value) (by simp) hnull)
            hcontributes.1 hcontributes.2
          simp only [hc, ne_eq, hcontributes.1, not_false_eq_true, decide_true, hcontributes.2,
            Bool.not_false, Bool.and_self, if_true, List.map_cons]
          exact .cons hhas hrest

theorem Model.has_clauses {m : Model} (h : ∀ f ∈ m.fields, NormalRules f.rules) :
    List.Forall₂ Contribution.Has m.contributions m.clauses := by
  unfold Model.contributions Model.clauses
  generalize m.fields = fields at h
  induction fields with
  | nil => exact .nil
  | cons f fields ih =>
      rw [List.flatMap_cons, List.flatMap_cons]
      exact List.rel_append (Field.has_clauses (h f (by simp))) (ih fun g hg => h g (by simp [hg]))

/-! ## Reading texts -/

/-- A word ends where a code point follows that is no part of one. -/
theorem Text.IsWord.append_inj {f g r s : Text} (hf : f.IsWord) (hg : g.IsWord)
    (hr : ∀ c ∈ r.head?, ¬ c.IsWord) (hs : ∀ c ∈ s.head?, ¬ c.IsWord) (h : f ++ r = g ++ s) :
    f = g ∧ r = s := by
  induction f generalizing g with
  | nil =>
      cases g with
      | nil => exact ⟨rfl, h⟩
      | cons d g =>
          rw [List.nil_append] at h
          exact absurd (hg d (by simp)) (hr d (by simp [h]))
  | cons c f ih =>
      cases g with
      | nil =>
          rw [List.nil_append] at h
          exact absurd (hf c (by simp)) (hs c (by simp [← h]))
      | cons d g =>
          obtain ⟨rfl, htail⟩ := List.cons.inj h
          obtain ⟨rfl, hrest⟩ := ih (fun c hc => hf c (List.mem_cons_of_mem _ hc))
            (fun c hc => hg c (List.mem_cons_of_mem _ hc)) htail
          exact ⟨rfl, hrest⟩

theorem append_cons_inj_of_notMem {α : Type} {a b f g : List α} {x : α} (hf : x ∉ f) (hg : x ∉ g)
    (h : a ++ x :: f = b ++ x :: g) : a = b ∧ f = g := by
  rcases List.append_eq_append_iff.mp h with ⟨c, rfl, hc⟩ | ⟨c, rfl, hc⟩
  · cases c with
    | nil => exact ⟨(List.append_nil a).symm, (List.cons.inj hc).2⟩
    | cons y c =>
        refine absurd ?_ hf
        rw [(List.cons.inj hc).2]
        simp
  · cases c with
    | nil => exact ⟨List.append_nil b, (List.cons.inj hc).2.symm⟩
    | cons y c =>
        refine absurd ?_ hg
        rw [(List.cons.inj hc).2]
        simp

theorem Text.ofInt_injective {n k : Int} (h : Text.ofInt n = Text.ofInt k) : n = k := by
  have hscan : ∀ n, Numeral.scan? (Text.ofInt n) = some (.ofInt n, []) := by
    intro n
    have hend : Text.EndsNumeral [] := by rintro _ ⟨⟩
    have hread := Numeral.scan?_spelling (Numeral.wellSpelled_ofInt n) hend
    rwa [Numeral.spelling_ofInt, List.append_nil] at hread
  have hnumeral : some (Numeral.ofInt n, ([] : Text)) = some (Numeral.ofInt k, []) := by
    rw [← hscan n, ← hscan k, h]
  have hvalue := congrArg Numeral.toInt? (Prod.mk.inj (Option.some.inj hnumeral)).1
  rw [Numeral.toInt?_ofInt, Numeral.toInt?_ofInt] at hvalue
  exact Option.some.inj hvalue

/-! ## Shapes of clauses -/

namespace Clause

/-- The six ways in which a clause is put. -/
inductive Shape where
  | hasType
  | matchesPattern
  | emptyOrMatches
  | lengthAtMost
  | lengthAtLeast
  | validates
  deriving DecidableEq

def shape : Clause → Shape
  | hasType _ _ => .hasType
  | matchesPattern _ _ => .matchesPattern
  | emptyOrMatches _ _ => .emptyOrMatches
  | lengthAtMost _ _ => .lengthAtMost
  | lengthAtLeast _ _ => .lengthAtLeast
  | validates _ _ => .validates

def field : Clause → Text
  | hasType field _ | matchesPattern field _ | emptyOrMatches field _ | lengthAtMost field _
  | lengthAtLeast field _ | validates field _ => field

/-- What stands before the field of a clause. -/
def opening : Clause → Text
  | emptyOrMatches _ _ => "(data."
  | validates _ model => validatorName model ++ "(data."
  | _ => "data."

/-- The fixed words right after the field of a clause. -/
def Shape.mark : Shape → Text
  | hasType => " is "
  | matchesPattern => ".matches('"
  | emptyOrMatches => " == '' || data."
  | lengthAtMost => ".length <= "
  | lengthAtLeast => ".length >= "
  | validates => ")"

/-- What follows these words. -/
def rest : Clause → Text
  | hasType _ t => t
  | matchesPattern _ pattern => pattern ++ "')"
  | emptyOrMatches field pattern => field ++ ".matches('" ++ pattern ++ "'))"
  | lengthAtMost _ bound => bound
  | lengthAtLeast _ bound => bound
  | validates _ _ => []

/-- The first character of a clause. -/
def Shape.initial : Shape → Char
  | emptyOrMatches => '('
  | validates => 'v'
  | _ => 'd'

theorem head?_text_eq (c : Clause) : c.text.head? = some (.scalar c.shape.initial) := by
  cases c <;> rfl

theorem text_eq (c : Clause) : c.text = c.opening ++ (c.field ++ (c.shape.mark ++ c.rest)) := by
  cases c <;> simp [text, opening, field, shape, Shape.mark, rest]

theorem not_isWord_mark (shape : Shape) (rest : Text) :
    ∀ c ∈ (shape.mark ++ rest).head?, ¬ c.IsWord := by
  intro c hc
  cases shape <;> cases hc <;> decide

/-- No mark is the beginning of another one. -/
theorem Shape.eq_of_prefix_of_mark {x y : Shape} (h : x.mark <+: y.mark) : x = y := by
  revert h
  cases x <;> cases y <;> decide

theorem Shape.eq_of_append {x y : Shape} {r s : Text} (h : x.mark ++ r = y.mark ++ s) : x = y := by
  have hx : x.mark <+: x.mark ++ r := List.prefix_append _ _
  have hy : y.mark <+: x.mark ++ r := h ▸ List.prefix_append _ _
  rcases Nat.le_total x.mark.length y.mark.length with hle | hle
  · exact eq_of_prefix_of_mark (List.prefix_of_prefix_length_le hx hy hle)
  · exact (eq_of_prefix_of_mark (List.prefix_of_prefix_length_le hy hx hle)).symm

/-! ## Clauses of one text -/

/-- Clauses that differ at most in how the name of a model starts. -/
inductive Alike : Clause → Clause → Prop
  | same (c : Clause) : Alike c c
  | validates (field : Text) {s t : Text} (h : capitalize s = capitalize t) :
      Alike (.validates field s) (.validates field t)

theorem Alike.text_eq {c d : Clause} (h : Alike c d) : c.text = d.text := by
  cases h with
  | same => rfl
  | validates field h => simp only [text, validatorName, h]

/-- A call is read from its end, since there is no point in a field name. -/
theorem alike_of_validates {f g s t : Text} (hf : f.IsWord) (hg : g.IsWord)
    (h : (validates f s).text = (validates g t).text) :
    Alike (.validates f s) (.validates g t) := by
  have hpoint : ∀ {f : Text}, f.IsWord → .scalar '.' ∉ f :=
    fun hf hmem => absurd (hf _ hmem) (by decide)
  have hsplit : ∀ model field : Text, validatorName model ++ "(data." ++ field
      = (validatorName model ++ "(data") ++ .scalar '.' :: field := by
    intro model field
    simp [Text.ofString, Text.ofChars]
  simp only [text, List.append_cancel_right_eq] at h
  rw [hsplit, hsplit] at h
  obtain ⟨hname, rfl⟩ := append_cons_inj_of_notMem (hpoint hf) (hpoint hg) h
  simp only [validatorName, List.append_cancel_right_eq, List.append_cancel_left_eq] at hname
  exact .validates _ hname

theorem opening_eq_of_initial {c d : Clause} (hc : c.shape ≠ .validates)
    (h : c.shape.initial = d.shape.initial) : c.opening = d.opening := by
  cases c <;> cases d <;> simp_all [shape, Shape.initial, opening]

theorem eq_of_rest {c d : Clause} (hc : c.shape ≠ .validates) (hshape : c.shape = d.shape)
    (hfield : c.field = d.field) (hrest : c.rest = d.rest) : c = d := by
  cases c <;> cases d <;> simp_all [shape, field, rest]

theorem exists_of_shape_validates {c : Clause} (h : c.shape = .validates) :
    ∃ field model, c = .validates field model := by
  cases c with
  | validates field model => exact ⟨field, model, rfl⟩
  | _ => cases h

/-- The text of a clause tells the clause, except for how the name of a model starts. -/
theorem alike_of_text {c d : Clause} (hc : c.field.IsWord) (hd : d.field.IsWord)
    (h : c.text = d.text) : Alike c d := by
  have hinitial : c.shape.initial = d.shape.initial := by
    have hhead := congrArg List.head? h
    rw [head?_text_eq, head?_text_eq] at hhead
    simpa using hhead
  by_cases hcall : c.shape = .validates
  · have hcall' : d.shape = .validates := by
      rw [hcall] at hinitial
      revert hinitial
      cases d.shape <;> decide
    obtain ⟨f, s, rfl⟩ := exists_of_shape_validates hcall
    obtain ⟨g, t, rfl⟩ := exists_of_shape_validates hcall'
    exact alike_of_validates hc hd h
  · rw [text_eq, text_eq, opening_eq_of_initial hcall hinitial, List.append_cancel_left_eq] at h
    obtain ⟨hfield, hmarked⟩ :=
      hc.append_inj hd (not_isWord_mark _ _) (not_isWord_mark _ _) h
    have hshape := Shape.eq_of_append hmarked
    rw [hshape, List.append_cancel_left_eq] at hmarked
    rw [eq_of_rest hcall hshape hfield hmarked]
    exact .same d

end Clause

/-! ## From clauses to constraints -/

namespace Contribution

variable {c d : Contribution} {x y : Clause}

theorem Has.field_eq (h : c.Has x) : x.field = c.field := by
  cases h <;> rfl

theorem Has.same_of_eq (hc : c.Has x) (hd : d.Has y) (h : x = y) : c.Same d := by
  cases hc with
  | builtIn | model =>
      cases hd <;> cases h
      exact ⟨rfl, rfl, Or.inl rfl, nofun⟩
  | pattern | patternOrEmpty =>
      cases hd <;> cases h
      exact ⟨rfl, rfl, Or.inl rfl, fun _ => rfl⟩
  | atLeast =>
      cases hd with
      | atLeast =>
          obtain ⟨hfield, hbound⟩ := Clause.lengthAtLeast.inj h
          exact ⟨hfield, rfl, Or.inl (congrArg Json.int (Text.ofInt_injective hbound)), nofun⟩
      | _ => cases h
  | atMost =>
      cases hd with
      | atMost =>
          obtain ⟨hfield, hbound⟩ := Clause.lengthAtMost.inj h
          exact ⟨hfield, rfl, Or.inl (congrArg Json.int (Text.ofInt_injective hbound)), nofun⟩
      | _ => cases h

/-- Constraints are the same to the rules exactly if their clauses are alike. -/
theorem Has.same_iff_alike (hc : c.Has x) (hd : d.Has y) : c.Same d ↔ x.Alike y := by
  constructor
  · intro h
    obtain ⟨field, kind, value, empty⟩ := d
    obtain ⟨rfl, rfl, hvalue, hempty⟩ := h
    rcases hvalue with hvalue | ⟨hkind, s, t, hs, ht, hps, hpt, hcapital⟩
    · -- one field, kind and value, so the leave to be empty decides between the patterns
      subst hvalue
      cases hc with
      | builtIn h =>
          cases hd with
          | builtIn => exact .same _
          | model h' => exact absurd h h'
      | model h =>
          cases hd with
          | builtIn h' => exact absurd h' h
          | model => exact .same _
      | pattern | patternOrEmpty =>
          cases hempty rfl
          cases hd
          exact .same _
      | atLeast | atMost =>
          cases hd
          exact .same _
    · simp only at ht
      subst ht
      cases hc with
      | builtIn h =>
          cases hs
          exact absurd h hps
      | model =>
          cases hs
          cases hd with
          | builtIn h => exact absurd h hpt
          | model => exact .validates _ hcapital
      | _ => cases hkind
  · intro h
    cases h with
    | same => exact hc.same_of_eq hd rfl
    | validates field hcapital =>
        cases hc with
        | model hs =>
            cases hd with
            | model ht =>
                exact ⟨rfl, rfl, Or.inr ⟨rfl, _, _, rfl, rfl, hs, ht, hcapital⟩, nofun⟩

end Contribution

theorem sameClauses_iff_sameContributions {cs ds : List Contribution} {xs ys : List Clause}
    (hcs : List.Forall₂ Contribution.Has cs xs) (hds : List.Forall₂ Contribution.Has ds ys)
    (hc : ∀ c ∈ cs, c.field.IsWord) (hd : ∀ d ∈ ds, d.field.IsWord) :
    xs.map Clause.text = ys.map Clause.text ↔ List.Forall₂ Contribution.Same cs ds := by
  induction hcs generalizing ds ys with
  | nil =>
      cases hds with
      | nil => exact ⟨fun _ => .nil, fun _ => rfl⟩
      | cons => exact ⟨nofun, nofun⟩
  | @cons c x cs xs hhas hcs ih =>
      cases hds with
      | nil => exact ⟨nofun, nofun⟩
      | @cons d y ds ys hhas' hds =>
          have hword : x.field.IsWord := hhas.field_eq ▸ hc c (by simp)
          have hword' : y.field.IsWord := hhas'.field_eq ▸ hd d (by simp)
          have hfirst : x.text = y.text ↔ c.Same d := by
            rw [hhas.same_iff_alike hhas']
            exact ⟨Clause.alike_of_text hword hword', Clause.Alike.text_eq⟩
          rw [List.map_cons, List.map_cons, List.cons.injEq, List.forall₂_cons, hfirst,
            ih hds (fun c hc' => hc c (by simp [hc'])) fun d hd' => hd d (by simp [hd'])]

theorem Model.field_mem_of_contribution {m : Model} {c : Contribution} (h : c ∈ m.contributions) :
    ∃ f ∈ m.fields, c.field = f.name := by
  obtain ⟨f, hf, hc⟩ := List.mem_flatMap.mp h
  obtain ⟨e, -, rfl⟩ := List.mem_map.mp hc
  exact ⟨f, hf, rfl⟩

/-- Models have the same clauses exactly if they have the same constraints, one by one
and in the same order. -/
theorem Model.clauses_eq_iff {v w : Json} {a b : Schema} (ha : Schema.ofJson v = .ok a)
    (hb : Schema.ofJson w = .ok b) {m n : Model} (hm : m ∈ a) (hn : n ∈ b)
    (hwords : ∀ f ∈ m.fields, f.name.IsWord) (hwords' : ∀ f ∈ n.fields, f.name.IsWord) :
    m.clauses.map Clause.text = n.clauses.map Clause.text
      ↔ List.Forall₂ Contribution.Same m.contributions n.contributions := by
  have hclauses : ∀ {v : Json} {s : Schema}, Schema.ofJson v = .ok s → ∀ m ∈ s,
      List.Forall₂ Contribution.Has m.contributions m.clauses := by
    intro v s hs m hm
    refine Model.has_clauses fun f hf => ?_
    exact ((inherited_true.holds_of_ofJson trivial hs m hm).fields f hf).normal
  have hfields : ∀ {m : Model}, (∀ f ∈ m.fields, f.name.IsWord) →
      ∀ c ∈ m.contributions, c.field.IsWord := by
    intro m hwords c hc
    obtain ⟨f, hf, hname⟩ := Model.field_mem_of_contribution hc
    exact hname ▸ hwords f hf
  exact sameClauses_iff_sameContributions (hclauses ha m hm) (hclauses hb n hn) (hfields hwords)
    (hfields hwords')

/-- A pattern that reads like the clause of a bound, on a field that refers to a model
in two spellings. -/
theorem Model.clauses_eq_iff_respelled :
    ∃ v w m n, Schema.ofJson v = .ok [m] ∧ Schema.ofJson w = .ok [n] ∧ m ≠ n
      ∧ (∀ f ∈ m.fields, f.name.IsWord) ∧ (∀ f ∈ n.fields, f.name.IsWord)
      ∧ List.Forall₂ Contribution.Same m.contributions n.contributions := by
  have hm : Schema.ofJson (.object [("m", .object [("f_1", .object [("type", .string "b"),
        ("regex", .string "').length <= 5")])])])
      = .ok [{ name := "m", fields := [{ name := "f_1", rules := [("type", .string "b"),
          ("regex", .string "').length <= 5")] }] }] :=
    rfl
  have hn : Schema.ofJson (.object [("n", .object [("f_1", .object [("canBeEmpty", .bool false),
        ("type", .string "B"), ("regex", .string "').length <= 5")])])])
      = .ok [{ name := "n", fields := [{ name := "f_1", rules := [("canBeEmpty", .bool false),
          ("type", .string "B"), ("regex", .string "').length <= 5")] }] }] :=
    rfl
  have hword : Text.IsWord "f_1" := by decide
  have hwords : ∀ rules : Record Json, ∀ f ∈ [(⟨"f_1", rules⟩ : Field)], f.name.IsWord := by
    intro rules f hf
    rw [List.mem_singleton.mp hf]
    exact hword
  refine ⟨_, _, _, _, hm, hn, by decide, hwords _, hwords _, ?_⟩
  exact (Model.clauses_eq_iff hm hn (by simp) (by simp) (hwords _) (hwords _)).mp
    (by decide +kernel)

end SecurityRules
