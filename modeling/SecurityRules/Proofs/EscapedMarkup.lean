import Mathlib.Data.List.TakeWhile
import SecurityRules.Console.Markup
import SecurityRules.Proofs.ConsolePages

/-!
# Escaped text is shown as it is

Text that is not markup is escaped before it is put between tags.
`Markup.render_styled` says that this works for every text between a tag that
gives a style and the one that closes it: what comes out can be shown, all of it
in that style. It is the text itself, unless a backslash stands in front of a
bracket or two of them at the end, or the console has something to replace in it.

Both the reading and the escaping of markup go through a text in the same
strides: over a backslash, over a whole tag, over any other code point. `Strides`
is that common recursion, and the proofs are inductions on it.
-/

namespace SecurityRules

namespace Markup

/-! ## Strides -/

/-- What is read as a tag between brackets, whatever comes after it. -/
def IsTag (inside : Text) : Prop :=
  ∀ rest, tag? (inside ++ .scalar ']' :: rest) = some inside

theorem exists_of_upToBracket? {t inside : Text} (h : upToBracket? t = some inside) :
    (∃ rest, t = inside ++ .scalar ']' :: rest)
      ∧ ∀ rest, upToBracket? (inside ++ .scalar ']' :: rest) = some inside := by
  induction t generalizing inside with
  | nil => cases h
  | cons c t ih =>
      rw [upToBracket?] at h
      split at h
      · next hclose =>
          cases h
          exact ⟨⟨t, by rw [hclose]; rfl⟩, fun _ => rfl⟩
      · next hclose =>
          split at h
          · cases h
          · next hopen =>
              obtain ⟨more, hmore, rfl⟩ := Option.map_eq_some_iff.mp h
              obtain ⟨⟨rest, rfl⟩, hstable⟩ := ih hmore
              refine ⟨⟨rest, rfl⟩, fun rest => ?_⟩
              rw [List.cons_append, upToBracket?, if_neg hclose, if_neg hopen, hstable]
              rfl

theorem exists_of_tag? {t inside : Text} (h : tag? t = some inside) :
    IsTag inside ∧ ∃ rest, t = inside ++ .scalar ']' :: rest := by
  cases t with
  | nil => cases h
  | cons c t =>
      rw [tag?] at h
      split at h
      · next hc =>
          obtain ⟨more, hmore, rfl⟩ := Option.map_eq_some_iff.mp h
          obtain ⟨⟨rest, rfl⟩, hstable⟩ := exists_of_upToBracket? hmore
          refine ⟨fun rest => ?_, rest, rfl⟩
          rw [List.cons_append, tag?, if_pos hc, hstable]
          rfl
      · cases h

/-- How a text is gone through after a number of backslashes. -/
inductive Strides : Nat → Text → Prop
  | done (slashes : Nat) : Strides slashes []
  | backslash {slashes : Nat} {rest : Text} (h : Strides (slashes + 1) rest) :
      Strides slashes (.scalar '\\' :: rest)
  | tag (slashes : Nat) {inside rest : Text} (hinside : IsTag inside) (h : Strides 0 rest) :
      Strides slashes (.scalar '[' :: (inside ++ .scalar ']' :: rest))
  | other (slashes : Nat) {c : CodePoint} {rest : Text} (hc : c ≠ .scalar '\\')
      (hrest : c = .scalar '[' → tag? rest = none) (h : Strides 0 rest) :
      Strides slashes (c :: rest)

theorem strides (slashes : Nat) (t : Text) : Strides slashes t := by
  match t with
  | [] => exact .done slashes
  | c :: rest =>
      by_cases hslash : c = .scalar '\\'
      · rw [hslash]
        exact .backslash (strides (slashes + 1) rest)
      · by_cases hbracket : c = .scalar '['
        · cases htag : tag? rest with
          | none => exact .other slashes hslash (fun _ => htag) (strides 0 rest)
          | some inside =>
              obtain ⟨hinside, after, hrest⟩ := exists_of_tag? htag
              rw [hbracket, hrest]
              exact .tag slashes hinside (strides 0 after)
        · exact .other slashes hslash (fun h => absurd h hbracket) (strides 0 rest)
termination_by t.length
decreasing_by
  · exact Nat.lt_succ_self _
  · exact Nat.lt_succ_self _
  · rw [hrest, List.length_cons, List.length_append, List.length_cons]
    omega
  · exact Nat.lt_succ_self _

/-! ## Pieces and escapes, stride by stride -/

theorem ite_tag?_eq_none {c : CodePoint} {rest : Text}
    (h : c = .scalar '[' → tag? rest = none) :
    (if c = .scalar '[' then tag? rest else none) = none := by
  split
  · next hc => exact h hc
  · rfl

section

variable (position slashes : Nat) (plain : Text)

theorem piecesFrom_skip (taken rest : Text) :
    piecesFrom position slashes taken.length plain (taken ++ rest)
      = piecesFrom (position + taken.length) slashes 0 plain rest := by
  induction taken generalizing position with
  | nil => rfl
  | cons c taken ih =>
      rw [List.cons_append, List.length_cons, piecesFrom, ih]
      congr 1
      omega

theorem piecesFrom_backslashes (n : Nat) (rest : Text) :
    piecesFrom position slashes 0 plain (backslashes n ++ rest)
      = piecesFrom (position + n) (slashes + n) 0 plain rest := by
  induction n generalizing position slashes with
  | zero => rfl
  | succ n ih =>
      rw [backslashes, List.replicate_succ, List.cons_append, piecesFrom, if_pos rfl]
      refine (ih _ _).trans ?_
      congr 1 <;> omega

theorem piecesFrom_tag {inside : Text} (hinside : IsTag inside) (rest : Text) :
    piecesFrom position slashes 0 plain (.scalar '[' :: (inside ++ .scalar ']' :: rest))
      = plainPiece plain ++ plainPiece (backslashes (slashes / 2))
        ++ (if slashes % 2 = 1 then .plain (.scalar '[' :: inside ++ [.scalar ']'])
          else .tag position inside)
        :: piecesFrom (position + 1 + (inside.length + 1)) 0 0 [] rest := by
  have hskip := piecesFrom_skip (position + 1) 0 [] (inside ++ [.scalar ']']) rest
  rw [List.append_assoc, List.length_append] at hskip
  rw [piecesFrom, if_neg (by decide), if_pos rfl, hinside rest]
  exact congrArg (fun pieces => _ ++ _ :: pieces) hskip

theorem piecesFrom_other {c : CodePoint} {rest : Text} (hc : c ≠ .scalar '\\')
    (hrest : c = .scalar '[' → tag? rest = none) :
    piecesFrom position slashes 0 plain (c :: rest)
      = piecesFrom (position + 1) 0 0 (plain ++ backslashes slashes ++ [c]) rest := by
  rw [piecesFrom, if_neg hc, ite_tag?_eq_none hrest]

theorem piecesFrom_plain {t : Text} (h : ∀ c ∈ t, c ≠ .scalar '\\' ∧ c ≠ .scalar '[')
    (rest : Text) :
    piecesFrom position 0 0 plain (t ++ rest)
      = piecesFrom (position + t.length) 0 0 (plain ++ t) rest := by
  induction t generalizing position plain with
  | nil => rw [List.append_nil]; rfl
  | cons c t ih =>
      obtain ⟨⟨hslash, hbracket⟩, ht⟩ := List.forall_mem_cons.mp h
      rw [List.cons_append, piecesFrom_other _ _ _ hslash fun heq => absurd heq hbracket, ih _ _ ht,
        backslashes, List.replicate_zero, List.append_nil, List.append_assoc]
      congr 1
      rw [List.length_cons]
      omega

theorem escapeFrom_skip (taken rest : Text) :
    escapeFrom slashes taken.length (taken ++ rest) = taken ++ escapeFrom slashes 0 rest := by
  induction taken with
  | nil => rfl
  | cons c taken ih => rw [List.cons_append, List.length_cons, escapeFrom, ih, List.cons_append]

theorem escapeFrom_backslash (rest : Text) :
    escapeFrom slashes 0 (.scalar '\\' :: rest) = escapeFrom (slashes + 1) 0 rest := by
  rw [escapeFrom, if_pos rfl]

theorem escapeFrom_tag {inside : Text} (hinside : IsTag inside) (rest : Text) :
    escapeFrom slashes 0 (.scalar '[' :: (inside ++ .scalar ']' :: rest))
      = backslashes (2 * slashes + 1)
        ++ .scalar '[' :: (inside ++ .scalar ']' :: escapeFrom 0 0 rest) := by
  have hskip := escapeFrom_skip 0 (inside ++ [.scalar ']']) rest
  rw [List.append_assoc, List.length_append, List.append_assoc] at hskip
  rw [escapeFrom, if_neg (by decide), if_pos rfl, hinside rest]
  exact congrArg (fun t => backslashes (2 * slashes + 1) ++ .scalar '[' :: t) hskip

theorem escapeFrom_other {c : CodePoint} {rest : Text} (hc : c ≠ .scalar '\\')
    (hrest : c = .scalar '[' → tag? rest = none) :
    escapeFrom slashes 0 (c :: rest) = backslashes slashes ++ c :: escapeFrom 0 0 rest := by
  rw [escapeFrom, if_neg hc, ite_tag?_eq_none hrest]

end

/-! ## Escaping makes no new tag -/

/-- A text that ends no tag and starts with none. -/
structure Neutral (tail : Text) : Prop where
  upToBracket : upToBracket? tail = none
  tag : tag? tail = none

theorem upToBracket?_backslashes {t : Text} (h : upToBracket? t = none) (n : Nat) :
    upToBracket? (backslashes n ++ t) = none := by
  induction n with
  | zero => exact h
  | succ n ih =>
      rw [backslashes, List.replicate_succ, List.cons_append, upToBracket?, if_neg (by decide),
        if_neg (by decide)]
      exact Option.map_eq_none_iff.mpr ih

theorem upToBracket?_escapeFrom {slashes : Nat} {t : Text} (ht : Strides slashes t)
    (h : upToBracket? t = none) {tail : Text} (htail : Neutral tail) :
    upToBracket? (escapeFrom slashes 0 t ++ tail) = none := by
  induction ht with
  | done slashes => exact upToBracket?_backslashes htail.upToBracket slashes
  | backslash _ ih =>
      rw [upToBracket?, if_neg (by decide), if_neg (by decide)] at h
      rw [escapeFrom_backslash]
      exact ih (Option.map_eq_none_iff.mp h)
  | tag slashes hinside _ _ =>
      rw [escapeFrom_tag _ hinside, List.append_assoc]
      exact upToBracket?_backslashes rfl _
  | @other slashes c rest hc hrest _ ih =>
      rw [escapeFrom_other _ hc hrest, List.append_assoc]
      refine upToBracket?_backslashes ?_ _
      rw [upToBracket?] at h
      rw [List.cons_append, upToBracket?]
      split at h
      · cases h
      · next hclose =>
          rw [if_neg hclose]
          split at h
          · next hopen => rw [if_pos hopen]
          · next hopen =>
              rw [if_neg hopen]
              exact Option.map_eq_none_iff.mpr (ih (Option.map_eq_none_iff.mp h))

theorem tag?_backslashes (n : Nat) (t : Text) : tag? (backslashes (n + 1) ++ t) = none := rfl

theorem tag?_escapeFrom_succ (slashes : Nat) (t tail : Text) :
    tag? (escapeFrom (slashes + 1) 0 t ++ tail) = none := by
  have ht := strides (slashes + 1) t
  generalize hn : slashes + 1 = n at ht
  induction ht generalizing slashes with
  | done n =>
      subst hn
      exact tag?_backslashes _ _
  | backslash _ ih =>
      rw [escapeFrom_backslash]
      exact ih _ rfl
  | tag n hinside _ _ =>
      rw [escapeFrom_tag _ hinside, List.append_assoc]
      exact tag?_backslashes _ _
  | other n hc hrest _ _ =>
      subst hn
      rw [escapeFrom_other _ hc hrest, List.append_assoc]
      exact tag?_backslashes _ _

/-- Where no tag starts, none starts in the escaped text either. -/
theorem tag?_escapeFrom {t : Text} (h : tag? t = none) {tail : Text} (htail : Neutral tail) :
    tag? (escapeFrom 0 0 t ++ tail) = none := by
  cases strides 0 t with
  | done => exact htail.tag
  | backslash _ =>
      rw [escapeFrom_backslash]
      exact tag?_escapeFrom_succ _ _ _
  | tag _ hinside _ =>
      rw [escapeFrom_tag _ hinside, List.append_assoc]
      exact tag?_backslashes _ _
  | other _ hc hrest hstrides =>
      rw [escapeFrom_other _ hc hrest]
      rw [tag?] at h
      show tag? (_ :: (_ ++ tail)) = none
      rw [tag?]
      split at h
      · next hstarts =>
          rw [if_pos hstarts]
          exact Option.map_eq_none_iff.mpr
            (upToBracket?_escapeFrom hstrides (Option.map_eq_none_iff.mp h) htail)
      · next hstarts => rw [if_neg hstarts]

/-! ## The pieces of an escaped text -/

/-- Plain pieces that make up a text. -/
def Spells (t : Text) (pieces : List Piece) : Prop :=
  ∃ texts : List Text, pieces = texts.map .plain ∧ texts.flatten = t

namespace Spells

theorem nil : Spells [] [] :=
  ⟨[], rfl, rfl⟩

theorem plain (t : Text) : Spells t [.plain t] :=
  ⟨[t], rfl, List.append_nil t⟩

theorem plainPiece (t : Text) : Spells t (plainPiece t) := by
  unfold Markup.plainPiece
  split
  · next h =>
      rw [List.isEmpty_iff.mp h]
      exact nil
  · exact plain t

theorem append {t u : Text} {ps qs : List Piece} (ht : Spells t ps) (hu : Spells u qs) :
    Spells (t ++ u) (ps ++ qs) := by
  obtain ⟨ts, rfl, rfl⟩ := ht
  obtain ⟨us, rfl, rfl⟩ := hu
  exact ⟨ts ++ us, List.map_append.symm, List.flatten_append⟩

end Spells

/-- A text ends in exactly so many backslashes. -/
def EndsIn (slashes : Nat) (t : Text) : Prop :=
  ∃ front : Text, t = front ++ backslashes slashes ∧ front.getLast? ≠ some (.scalar '\\')

theorem EndsIn.append {slashes : Nat} {t : Text} (h : EndsIn slashes t) (before : Text)
    {last : CodePoint} (hlast : last ≠ .scalar '\\') :
    EndsIn slashes (before ++ last :: t) := by
  obtain ⟨front, rfl, hfront⟩ := h
  refine ⟨before ++ last :: front, by rw [List.append_assoc]; rfl, ?_⟩
  rw [List.getLast?_append, List.getLast?_cons, Option.some_or]
  cases hend : front.getLast? with
  | none => exact fun heq => hlast (Option.some.inj heq)
  | some c => exact fun heq => hfront (hend.trans heq)

/-- An escaped text is read as plain text, up to the backslashes at its end. -/
theorem exists_pieces_escapeFrom {slashes : Nat} {t : Text} (ht : Strides slashes t)
    (position : Nat) (plain : Text) {tail : Text} (htail : Neutral tail) :
    ∃ read pieces position' slashes' plain', Spells read pieces
      ∧ piecesFrom position 0 0 plain (escapeFrom slashes 0 t ++ tail)
        = pieces ++ piecesFrom position' slashes' 0 plain' tail
      ∧ read ++ plain' ++ backslashes slashes' = plain ++ backslashes slashes ++ t
      ∧ EndsIn slashes' (escapeFrom slashes 0 t) := by
  induction ht generalizing position plain with
  | done slashes =>
      refine ⟨[], [], position + slashes, 0 + slashes, plain, .nil, ?_, ?_, ?_⟩
      · exact piecesFrom_backslashes _ _ _ _ _
      · rw [Nat.zero_add, List.nil_append, List.append_nil]
      · rw [Nat.zero_add]
        exact ⟨[], rfl, Option.some_ne_none _ ∘ Eq.symm⟩
  | @backslash slashes rest _ ih =>
      rw [escapeFrom_backslash]
      obtain ⟨read, pieces, position', slashes', plain', hspells, hpieces, htext, hends⟩ :=
        ih position plain
      refine ⟨read, pieces, position', slashes', plain', hspells, hpieces, htext.trans ?_, hends⟩
      simp [backslashes, List.replicate_succ']
  | @tag slashes inside rest hinside _ ih =>
      rw [escapeFrom_tag _ hinside, List.append_assoc, piecesFrom_backslashes, List.cons_append,
        List.append_assoc, List.cons_append, piecesFrom_tag _ _ _ hinside]
      -- the backslashes of the text are halved again, and the one over escapes the tag
      have hodd : (0 + (2 * slashes + 1)) % 2 = 1 := by omega
      have hhalf : (0 + (2 * slashes + 1)) / 2 = slashes := by omega
      rw [if_pos hodd, hhalf]
      obtain ⟨read, pieces, position', slashes', plain', hspells, hpieces, htext, hends⟩ := ih _ []
      refine ⟨_, _, position', slashes', plain',
        ((Spells.plainPiece plain).append (.plainPiece (backslashes slashes))).append
          ((Spells.plain (.scalar '[' :: inside ++ [.scalar ']'])).append hspells), ?_, ?_, ?_⟩
      · rw [hpieces]
        simp
      · simp only [List.append_assoc] at htext ⊢
        rw [htext]
        simp [backslashes]
      · have hbracket : CodePoint.scalar ']' ≠ .scalar '\\' := by decide
        have hclosed :=
          hends.append (backslashes (2 * slashes + 1) ++ .scalar '[' :: inside) hbracket
        rwa [List.append_assoc] at hclosed
  | @other slashes c rest hc hrest _ ih =>
      have htag : c = .scalar '[' → tag? (escapeFrom 0 0 rest ++ tail) = none :=
        fun h => tag?_escapeFrom (hrest h) htail
      rw [escapeFrom_other _ hc hrest, List.append_assoc, piecesFrom_backslashes, List.cons_append,
        piecesFrom_other _ _ _ hc htag, Nat.zero_add]
      obtain ⟨read, pieces, position', slashes', plain', hspells, hpieces, htext, hends⟩ :=
        ih _ (plain ++ backslashes slashes ++ [c])
      refine ⟨read, pieces, position', slashes', plain', hspells, hpieces, htext.trans ?_,
        hends.append _ hc⟩
      simp [backslashes]

theorem EndsIn.endsInOneBackslash {slashes : Nat} {t : Text} (h : EndsIn slashes t) :
    endsInOneBackslash t = decide (slashes = 1) := by
  obtain ⟨front, rfl, hfront⟩ := h
  rw [List.getLast?_eq_head?_reverse] at hfront
  rw [Markup.endsInOneBackslash, List.reverse_append, backslashes, List.reverse_replicate]
  generalize front.reverse = back at hfront
  have hback : ∀ rest, back ≠ .scalar '\\' :: rest := by
    rintro rest rfl
    exact hfront rfl
  cases slashes with
  | zero =>
      rw [List.replicate_zero, List.nil_append]
      split
      · rfl
      · next rest _ => exact absurd rfl (hback rest)
      · rfl
  | succ slashes =>
      cases slashes with
      | zero =>
          rw [List.replicate_one, List.singleton_append]
          split
          · next rest heq => exact absurd (List.cons.inj heq).2 (hback rest)
          · rfl
          · next hneither => exact absurd rfl (hneither _)
      | succ slashes => rfl

/-- A single backslash at the end is doubled, and that is all. -/
theorem EndsIn.escape {slashes : Nat} {t : Text} (h : EndsIn slashes (escapeFrom 0 0 t)) :
    Markup.escape t = escapeFrom 0 0 t ++ backslashes (if slashes = 1 then 1 else 0) := by
  simp only [Markup.escape, h.endsInOneBackslash, decide_eq_true_eq]
  split
  · rfl
  · exact (List.append_nil _).symm

/-! ## The pieces of a text in a style -/

/-- A normal name of a style, as it can stand in a tag. -/
structure IsStyle (style : Text) : Prop where
  normal : (Style.normalName style).toOption = some style
  trimmed : style.trim = style
  bare : .scalar '=' ∉ style
  first : style.head?.any fun c => c ≠ .scalar '/' && c ≠ .scalar '@'
  closing : IsTag (.scalar '/' :: style)

namespace IsStyle

variable {style : Text} (h : IsStyle style)
include h

theorem normalName_eq : normalName style = .ok style := by
  have hnormal := h.normal
  unfold normalName
  cases hname : Style.normalName style with
  | error fault =>
      rw [hname] at hnormal
      cases hnormal
  | ok name =>
      rw [hname] at hnormal
      exact congrArg Except.ok (Option.some.inj hnormal)

theorem readable : ∃ words, Style.ofText style = .ok words := by
  have hnormal := h.normal
  unfold Style.normalName at hnormal
  cases hwords : Style.ofText style with
  | error fault =>
      rw [hwords] at hnormal
      cases hnormal
  | ok words => exact ⟨words, rfl⟩

end IsStyle

theorem splitTag_eq {t : Text} (h : .scalar '=' ∉ t) : splitTag t = (t, none) := by
  have hrest : t.dropWhile (· ≠ .scalar '=') = [] :=
    List.dropWhile_eq_nil_iff.mpr fun c hc => decide_eq_true fun heq => h (heq ▸ hc)
  rw [splitTag, hrest]

theorem IsStyle.opens {style : Text} (h : IsStyle style) (position : Nat) (p : Progress) :
    p.tag position style = .ok { p with opened := ⟨p.text.length, style, none⟩ :: p.opened } := by
  have hfirst := h.first
  have hname := h.normalName_eq
  unfold Progress.tag
  rw [splitTag_eq h.bare]
  simp only
  split
  · simp at hfirst
  · rw [hname]
    rfl

theorem IsStyle.closes {style : Text} (h : IsStyle style) (position start : Nat) (text : Text)
    (opened : List OpenTag) (spans : List Span) :
    Progress.tag position (.scalar '/' :: style)
        { text, opened := ⟨start, style, none⟩ :: opened, spans }
      = .ok { text, opened, spans := ⟨start, text.length, style⟩ :: spans } := by
  have hfirst := h.first
  have hbare : .scalar '=' ∉ CodePoint.scalar '/' :: style := by
    rw [List.mem_cons, not_or]
    exact ⟨by decide, h.bare⟩
  have hempty : style.isEmpty = false := by
    cases style with
    | nil => cases hfirst
    | cons c rest => rfl
  have hhandler : style.head? ≠ some (.scalar '@') := by
    intro hhead
    rw [hhead] at hfirst
    exact absurd hfirst (by decide)
  unfold Progress.tag
  rw [splitTag_eq hbare]
  simp only [h.trimmed, hempty, h.normalName_eq, bind, Except.bind]
  rw [if_neg Bool.false_ne_true]
  simp [Progress.close, OpenTag.close, OpenTag.style, hhandler, Except.map]

/-- The tag at the end of a text in a style. -/
def closingTag (style : Text) : Text :=
  .scalar '[' :: (.scalar '/' :: style ++ [.scalar ']'])

/-- What comes after the pieces of a text in a style: the tag that closes it, unless
it was escaped. -/
inductive Closing (style : Text) : List Piece → Prop
  | escaped : Closing style []
  | tag (position : Nat) : Closing style [.tag position (.scalar '/' :: style)]

theorem exists_pieces_closing {style : Text} (hstyle : IsStyle style) (position slashes : Nat)
    (plain : Text) :
    ∃ read pieces closing, Spells read pieces ∧ Closing style closing
      ∧ piecesFrom position slashes 0 plain (closingTag style) = pieces ++ closing
      ∧ (slashes % 2 = 0 → read = plain ++ backslashes (slashes / 2)) := by
  have hpieces := piecesFrom_tag position slashes plain hstyle.closing []
  have hspells := (Spells.plainPiece plain).append (.plainPiece (backslashes (slashes / 2)))
  split at hpieces
  · next hodd =>
      refine ⟨_, _, [], hspells.append (.plain (closingTag style)), .escaped, hpieces.trans ?_,
        fun heven => ?_⟩
      · rw [List.append_nil]
        rfl
      · omega
  · exact ⟨_, _, _, hspells, .tag position, hpieces, fun _ => rfl⟩

theorem neutral_closingTag (style : Text) (n : Nat) :
    Neutral (backslashes n ++ closingTag style) where
  upToBracket := upToBracket?_backslashes rfl n
  tag := by cases n <;> rfl

section

variable {style opening lead : Text} {position : Nat} (hstyle : IsStyle style)
  (hopening : ∀ t, pieces (opening ++ t) = .tag 0 style :: piecesFrom position 0 0 lead t)
include hstyle hopening

theorem exists_pieces_styled (t : Text) :
    ∃ read pieces closing, Spells read pieces ∧ Closing style closing
      ∧ Markup.pieces (opening ++ escape t ++ closingTag style)
        = .tag 0 style :: (pieces ++ closing)
      ∧ (¬ Text.ofString "\\\\" <:+ lead ++ t → read = lead ++ t) := by
  obtain ⟨n, hn⟩ : ∃ n, Markup.escape t = escapeFrom 0 0 t ++ backslashes n := by
    unfold Markup.escape
    simp only
    split
    · exact ⟨1, rfl⟩
    · exact ⟨0, (List.append_nil _).symm⟩
  obtain ⟨read, pieces, position', slashes, plain, hread, hpieces, htext, hends⟩ :=
    exists_pieces_escapeFrom (strides 0 t) position lead (neutral_closingTag style n)
  rw [piecesFrom_backslashes] at hpieces
  obtain ⟨read', pieces', closing, hread', hclosing, hpieces', hplain⟩ :=
    exists_pieces_closing hstyle (position' + n) (slashes + n) plain
  refine ⟨_, _, closing, hread.append hread', hclosing, ?_, fun hsuffix => ?_⟩
  · rw [List.append_assoc, hn, List.append_assoc, hopening, hpieces, hpieces', List.append_assoc]
  · have hslashes : slashes < 2 := by
      refine Nat.lt_of_not_le fun hle => hsuffix ⟨read ++ plain ++ backslashes (slashes - 2), ?_⟩
      have hsplit : backslashes (slashes - 2) ++ Text.ofString "\\\\" = backslashes slashes := by
        have happend := List.replicate_append_replicate (n := slashes - 2) (m := 2)
          (a := CodePoint.scalar '\\')
        rwa [Nat.sub_add_cancel hle] at happend
      rw [List.append_assoc, hsplit, htext]
      simp [backslashes]
    have hadded : n = if slashes = 1 then 1 else 0 := by
      have h := List.append_cancel_left (hn.symm.trans hends.escape)
      simpa [backslashes] using congrArg List.length h
    -- one backslash at the end is doubled, and halved again in front of the tag
    have hhalf : (slashes + n) % 2 = 0 ∧ (slashes + n) / 2 = slashes := by
      split at hadded <;> omega
    rw [hplain hhalf.1, hhalf.2, ← List.append_assoc, htext]
    simp [backslashes]

end

/-! ## Reading them -/

theorem shown_eq_self {t : Text} (h : ¬ Text.ofString "\\[" <:+: t) : shown t = t := by
  induction t with
  | nil => rfl
  | cons c t ih =>
      have hrest : shown t = t := ih fun hpart => h (List.infix_cons hpart)
      unfold shown
      split
      · next rest heq =>
          rw [heq] at h
          exact absurd (List.prefix_append (Text.ofString "\\[") rest).isInfix h
      · next d rest _ heq =>
          cases heq
          rw [hrest]
      · next heq => cases heq

theorem shown_subset (t : Text) : shown t ⊆ t := by
  fun_induction shown t with
  | case1 rest ih => exact List.subset_cons_of_subset _ (List.cons_subset_cons _ ih)
  | case2 c rest _ ih => exact List.cons_subset_cons c ih
  | case3 => exact List.Subset.refl _

section

variable (console : Console)

/-- Plain pieces are read as a text, which is their own text unless the console has
something to replace in it. -/
theorem Spells.read {t : Text} {pieces : List Piece} (h : Spells t pieces) :
    ∃ u, (∀ (p : Progress) (rest : List Piece),
        p.read console (pieces ++ rest) = Progress.read console { p with text := p.text ++ u } rest)
      ∧ (¬ Text.ofString "\\[" <:+: t → console.Keeps t → u = t) := by
  obtain ⟨texts, rfl, rfl⟩ := h
  induction texts with
  | nil => exact ⟨[], fun p rest => by rw [List.append_nil]; rfl, fun _ _ => rfl⟩
  | cons first texts ih =>
      obtain ⟨u, hread, hu⟩ := ih
      refine ⟨console.clean (shown first) ++ u, fun p rest => ?_, fun hplain hkeeps => ?_⟩
      · rw [List.map_cons, List.cons_append, Progress.read, hread, List.append_assoc]
      · rw [List.flatten_cons] at hplain hkeeps ⊢
        have hfirst := (List.prefix_append first texts.flatten).isInfix
        have hrest := (List.suffix_append first texts.flatten).isInfix
        rw [shown_eq_self fun hpart => hplain (hpart.trans hfirst),
          (hkeeps.of_infix hfirst).clean_eq,
          hu (fun hpart => hplain (hpart.trans hrest)) (hkeeps.of_infix hrest)]

/-- All of a text in a style has that style, whether or not its tag is closed. -/
theorem read_styled {style read : Text} {pieces closing : List Piece} (hstyle : IsStyle style)
    (hread : Spells read pieces) (hclosing : Closing style closing) :
    ∃ u p, Progress.read console {} (.tag 0 style :: (pieces ++ closing)) = .ok p
      ∧ p.result = { text := u, spans := [⟨0, u.length, style⟩] }
      ∧ (¬ Text.ofString "\\[" <:+: read → console.Keeps read → u = read) := by
  obtain ⟨u, hu, hplain⟩ := hread.read console
  rw [Progress.read, hstyle.opens]
  simp only [hu]
  cases hclosing with
  | escaped => exact ⟨u, _, rfl, by simp [Progress.result, OpenTag.style], hplain⟩
  | tag position =>
      refine ⟨u, { text := u, spans := [⟨0, u.length, style⟩] }, ?_, ?_, hplain⟩
      · rw [Progress.read, List.nil_append, hstyle.closes]
        rfl
      · simp [Progress.result]

/-- A text in a style can be rendered, whatever it is. -/
theorem render_styled {style opening lead : Text} {position : Nat} (hstyle : IsStyle style)
    (hopening : ∀ t, pieces (opening ++ t) = .tag 0 style :: piecesFrom position 0 0 lead t)
    (t : Text) :
    ∃ text, render console (opening ++ escape t ++ closingTag style)
        = .ok { text, spans := [⟨0, text.length, style⟩] }
      ∧ (¬ Text.ofString "\\\\" <:+ lead ++ t → ¬ Text.ofString "\\[" <:+: lead ++ t →
        console.Keeps (lead ++ t) → text = lead ++ t) := by
  obtain ⟨read, pieces, closing, hread, hclosing, hpieces, hliteral⟩ :=
    exists_pieces_styled hstyle hopening t
  obtain ⟨text, p, hp, hresult, htext⟩ := read_styled console hstyle hread hclosing
  refine ⟨text, ?_, fun hsuffix hplain hkeeps => ?_⟩
  · rw [render, hpieces, hp, ← hresult]
    rfl
  · rw [hliteral hsuffix] at htext
    exact htext hplain hkeeps

end

/-! ## Lone halves -/

theorem Progress.text_close {condition : OpenTag → Bool} {noTag : Fault} {p p' : Progress}
    (h : p.close condition noTag = .ok p') : p'.text = p.text := by
  unfold Progress.close at h
  split at h
  · cases h
  · next tag _ =>
      cases hclose : tag.close p.text.length with
      | error fault =>
          rw [hclose] at h
          cases h
      | ok span =>
          rw [hclose] at h
          cases h
          rfl

theorem Progress.text_tag {position : Nat} {inside : Text} {p p' : Progress}
    (h : p.tag position inside = .ok p') : p'.text = p.text := by
  unfold Progress.tag at h
  simp only at h
  split at h
  · split at h
    · exact text_close h
    · cases hname : normalName (Text.trim _) with
      | error fault =>
          rw [hname] at h
          cases h
      | ok name =>
          rw [hname] at h
          exact text_close h
  · cases hname : normalName _ with
    | error fault =>
        rw [hname] at h
        cases h
    | ok name =>
        rw [hname] at h
        cases h
        rfl

theorem isWhole_backslashes (n : Nat) : (backslashes n).IsWhole := by
  intro c hc
  rw [List.eq_of_mem_replicate hc]
  rfl

theorem isWhole_of_mem_plainPiece {t u : Text} (ht : t.IsWhole) (h : .plain u ∈ plainPiece t) :
    u.IsWhole := by
  unfold plainPiece at h
  split at h
  · cases h
  · cases List.mem_singleton.mp h
    exact ht

theorem isWhole_of_mem_piecesFrom {slashes : Nat} {t : Text} (hstrides : Strides slashes t)
    (ht : t.IsWhole) {plain : Text} (hplain : plain.IsWhole) {position : Nat} {u : Text}
    (h : .plain u ∈ piecesFrom position slashes 0 plain t) : u.IsWhole := by
  induction hstrides generalizing position plain with
  | done slashes =>
      exact isWhole_of_mem_plainPiece
        (Text.isWhole_append.mpr ⟨hplain, isWhole_backslashes slashes⟩) h
  | backslash _ ih =>
      rw [piecesFrom, if_pos rfl] at h
      exact ih (List.forall_mem_cons.mp ht).2 hplain h
  | @tag slashes inside rest hinside _ ih =>
      have hparts := Text.isWhole_append.mp (List.forall_mem_cons.mp ht).2
      rw [piecesFrom_tag _ _ _ hinside, List.mem_append, List.mem_append, List.mem_cons] at h
      rcases h with (h | h) | h | h
      · exact isWhole_of_mem_plainPiece hplain h
      · exact isWhole_of_mem_plainPiece (isWhole_backslashes _) h
      · split at h
        · cases h
          exact Text.isWhole_append.mpr ⟨List.forall_mem_cons.mpr ⟨rfl, hparts.1⟩, by decide⟩
        · cases h
      · exact ih (List.forall_mem_cons.mp hparts.2).2 (List.forall_mem_nil _) h
  | other slashes hc hrest _ ih =>
      obtain ⟨hfirst, ht⟩ := List.forall_mem_cons.mp ht
      rw [piecesFrom_other _ _ _ hc hrest] at h
      refine ih ht (Text.isWhole_append.mpr ⟨?_, List.forall_mem_singleton.mpr hfirst⟩) h
      exact Text.isWhole_append.mpr ⟨hplain, isWhole_backslashes slashes⟩

theorem isWhole_read {console : Console} {pieces : List Piece}
    (hpieces : ∀ u, .plain u ∈ pieces → u.IsWhole) {p p' : Progress} (hp : p.text.IsWhole)
    (h : p.read console pieces = .ok p') : p'.text.IsWhole := by
  induction pieces generalizing p with
  | nil =>
      cases h
      exact hp
  | cons piece pieces ih =>
      have hrest := fun u hu => hpieces u (List.mem_cons_of_mem _ hu)
      cases piece with
      | plain t =>
          have hshown : (shown t).IsWhole :=
            fun c hc => hpieces t List.mem_cons_self c (shown_subset t hc)
          exact ih hrest (Text.isWhole_append.mpr ⟨hp, Console.isWhole_clean hshown⟩) h
      | tag position inside =>
          rw [Progress.read] at h
          split at h
          · cases h
          · next q hq => exact ih hrest (Progress.text_tag hq ▸ hp) h

/-- What is rendered has no lone half that the marked-up text has not. -/
theorem isWhole_render {console : Console} {t : Text} {result : StyledText}
    (h : render console t = .ok result) (ht : t.IsWhole) : result.text.IsWhole := by
  unfold render at h
  cases hread : Progress.read console {} (pieces t) with
  | error fault =>
      rw [hread] at h
      cases h
  | ok p =>
      rw [hread] at h
      cases h
      have hpieces : ∀ u, .plain u ∈ pieces t → Text.IsWhole u :=
        fun u => isWhole_of_mem_piecesFrom (strides 0 t) ht (List.forall_mem_nil _)
      exact isWhole_read hpieces (by decide) hread

theorem isWhole_escapeFrom {slashes : Nat} {t : Text} (hstrides : Strides slashes t)
    (h : t.IsWhole) : (escapeFrom slashes 0 t).IsWhole := by
  induction hstrides with
  | done slashes => exact isWhole_backslashes slashes
  | backslash _ ih =>
      rw [escapeFrom_backslash]
      exact ih (List.forall_mem_cons.mp h).2
  | tag slashes hinside _ ih =>
      obtain ⟨hopen, h⟩ := List.forall_mem_cons.mp h
      obtain ⟨hwhole, hrest⟩ := Text.isWhole_append.mp h
      obtain ⟨hclose, hrest⟩ := List.forall_mem_cons.mp hrest
      rw [escapeFrom_tag _ hinside]
      refine Text.isWhole_append.mpr ⟨isWhole_backslashes _, List.forall_mem_cons.mpr ⟨hopen, ?_⟩⟩
      exact Text.isWhole_append.mpr ⟨hwhole, List.forall_mem_cons.mpr ⟨hclose, ih hrest⟩⟩
  | other slashes hc hrest _ ih =>
      obtain ⟨hfirst, h⟩ := List.forall_mem_cons.mp h
      rw [escapeFrom_other _ hc hrest]
      exact Text.isWhole_append.mpr
        ⟨isWhole_backslashes slashes, List.forall_mem_cons.mpr ⟨hfirst, ih h⟩⟩

theorem isWhole_escape {t : Text} (h : t.IsWhole) : (escape t).IsWhole := by
  have hescaped := isWhole_escapeFrom (strides 0 t) h
  unfold escape
  simp only
  split
  · exact Text.isWhole_append.mpr ⟨hescaped, by decide⟩
  · exact hescaped

/-- What a marked-up text stands for, or nothing. -/
def rendered (console : Console) (t : Text) : StyledText :=
  (render console t).toOption.getD { text := [] }

/-! ## Text without tags -/

/-- Whether a tag starts somewhere in a text, escaped or not. -/
def hasTag : Text → Bool
  | [] => false
  | c :: rest => (c = .scalar '[' && (tag? rest).isSome) || hasTag rest

theorem piecesFrom_untagged {t : Text} (h : hasTag t = false) (position slashes : Nat)
    (plain : Text) :
    piecesFrom position slashes 0 plain t = plainPiece (plain ++ backslashes slashes ++ t) := by
  induction t generalizing position slashes plain with
  | nil => rw [piecesFrom, List.append_nil]
  | cons c rest ih =>
      rw [hasTag, Bool.or_eq_false_iff] at h
      by_cases hc : c = .scalar '\\'
      · rw [piecesFrom, if_pos hc, ih h.2, hc]
        simp [backslashes, List.replicate_succ']
      · have hrest : c = .scalar '[' → tag? rest = none := by
          intro hbracket
          simpa [hbracket] using h.1
        rw [piecesFrom_other _ _ _ hc hrest, ih h.2]
        simp [backslashes]

theorem render_untagged (console : Console) {t : Text} (h : hasTag t = false) :
    render console t = .ok { text := console.clean (shown t) } := by
  rw [render, pieces, piecesFrom_untagged h, List.nil_append, backslashes, List.replicate_zero,
    List.nil_append, plainPiece]
  split
  · next hempty =>
      rw [List.isEmpty_iff.mp hempty]
      simp [Progress.read, Progress.result, Except.map, shown, Console.clean, Console.withPictures]
  · simp [Progress.read, Progress.result, Except.map]

theorem hasTag_eq_false {t : Text} (h : .scalar '[' ∉ t) : hasTag t = false := by
  induction t with
  | nil => rfl
  | cons c rest ih =>
      rw [List.mem_cons, not_or] at h
      rw [hasTag, decide_eq_false fun hc => h.1 hc.symm, Bool.false_and, Bool.false_or, ih h.2]

end Markup

end SecurityRules
