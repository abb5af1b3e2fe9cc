import Mathlib.Data.List.Forall2
import SecurityRules.Ruleset.Document
import SecurityRules.Schema.Basic

/-!
# Reading the lines of a document back

Lines are told apart by line feeds and the depth of a line by the tabs in front
of it, so the text of lines determines them, as long as no line holds a line
feed or starts with a tab of its own. Functions and access blocks are told apart
by their closing braces, which are the only lines at their depth inside of them.
-/

namespace SecurityRules

/-! ## From the text to lines -/

/-- A line without a line feed that does not start with a tab. -/
structure Line.Plain (line : Line) : Prop where
  oneLine : .scalar '\n' ∉ line.content
  front : line.content.head? ≠ some (.scalar '\t')

theorem indent_tab_injective {n k : Nat} {t u : Text} (ht : t.head? ≠ some (.scalar '\t'))
    (hu : u.head? ≠ some (.scalar '\t')) (h : Text.times n tab ++ t = Text.times k tab ++ u) :
    n = k ∧ t = u := by
  induction n generalizing k with
  | zero =>
      cases k with
      | zero => exact ⟨rfl, h⟩
      | succ k =>
          have heq : t = .scalar '\t' :: (Text.times k tab ++ u) := h
          rw [heq] at ht
          exact absurd rfl ht
  | succ n ih =>
      cases k with
      | zero =>
          have heq : .scalar '\t' :: (Text.times n tab ++ t) = u := h
          rw [← heq] at hu
          exact absurd rfl hu
      | succ k =>
          have heq : CodePoint.scalar '\t' :: (Text.times n tab ++ t)
              = .scalar '\t' :: (Text.times k tab ++ u) := h
          obtain ⟨hn, htu⟩ := ih (List.cons.inj heq).2
          exact ⟨by rw [hn], htu⟩

theorem Line.text_tab_injective {k l : Line} (hk : k.Plain) (hl : l.Plain)
    (h : k.text tab = l.text tab) : k = l := by
  obtain ⟨hdepth, hcontent⟩ := indent_tab_injective hk.front hl.front h
  cases k
  cases l
  simp_all

theorem Line.Plain.notMem_text {line : Line} (h : line.Plain) : .scalar '\n' ∉ line.text tab := by
  have hindent : CodePoint.scalar '\n' ∉ Text.times line.depth tab := by
    intro hmem
    obtain ⟨unit, hunit, hmem⟩ := List.mem_flatten.mp hmem
    rw [List.eq_of_mem_replicate hunit] at hmem
    exact absurd hmem (by decide)
  rw [Line.text, List.mem_append]
  exact fun hmem => hmem.elim hindent h.oneLine

/-- The text of plain lines determines them. -/
theorem linesText_tab_injective {ks ls : List Line} (hks : ∀ k ∈ ks, k.Plain)
    (hls : ∀ l ∈ ls, l.Plain) (hk : ks ≠ []) (hl : ls ≠ [])
    (h : linesText tab ks = linesText tab ls) : ks = ls := by
  -- no line holds the line feed that joins them, so splitting at it undoes the joining
  have hsplit : ∀ ls : List Line, (∀ l ∈ ls, l.Plain) → ls ≠ [] →
      (linesText tab ls).splitOn (.scalar '\n') = ls.map (Line.text tab) := by
    intro ls hls hl
    refine List.splitOn_intercalate _ ?_ (by simpa using hl)
    intro t ht
    obtain ⟨l, hmem, rfl⟩ := List.mem_map.mp ht
    exact (hls l hmem).notMem_text
  have htexts : ks.map (Line.text tab) = ls.map (Line.text tab) := by
    rw [← hsplit ks hks hk, ← hsplit ls hls hl, h]
  clear h hsplit hk hl
  induction ks generalizing ls with
  | nil => exact (List.map_eq_nil_iff.mp htexts.symm).symm
  | cons k ks ih =>
      cases ls with
      | nil => cases htexts
      | cons l ls =>
          obtain ⟨hhead, htail⟩ := List.cons.inj htexts
          rw [Line.text_tab_injective (hks k (by simp)) (hls l (by simp)) hhead,
            ih (fun k hk => hks k (by simp [hk])) (fun l hl => hls l (by simp [hl])) htail]

/-! ## From lines to blocks -/

/-- The line that closes a function or an access block. -/
def closingLine : Line :=
  ⟨2, "\x7d"⟩

/-- Lines that open with a line of some sort and end with the first line at its
depth after that. -/
def IsBlock (opens : Line → Prop) (lines : List Line) : Prop :=
  ∃ opening inner, lines = opening :: (inner ++ [closingLine]) ∧ opens opening
    ∧ ∀ line ∈ inner, line.depth ≠ 2

theorem inner_cancel {inner inner' rest rest' : List Line} (hinner : ∀ line ∈ inner, line.depth ≠ 2)
    (hinner' : ∀ line ∈ inner', line.depth ≠ 2)
    (h : inner ++ closingLine :: rest = inner' ++ closingLine :: rest') :
    inner = inner' ∧ rest = rest' := by
  induction inner generalizing inner' with
  | nil =>
      cases inner' with
      | nil => exact ⟨rfl, (List.cons.inj h).2⟩
      | cons line inner' =>
          rw [← (List.cons.inj h).1] at hinner'
          exact absurd rfl (hinner' closingLine (by simp))
  | cons line inner ih =>
      cases inner' with
      | nil =>
          rw [(List.cons.inj h).1] at hinner
          exact absurd rfl (hinner closingLine (by simp))
      | cons line' inner' =>
          obtain ⟨hhead, htail⟩ := List.cons.inj h
          obtain ⟨heq, hrest⟩ := ih (fun l hl => hinner l (by simp [hl]))
            (fun l hl => hinner' l (by simp [hl])) htail
          exact ⟨by rw [hhead, heq], hrest⟩

/-- Blocks one after another can be told apart. -/
theorem blocks_cancel {opens : Line → Prop} {block : Model → List Line}
    (hblock : ∀ m, IsBlock opens (block m)) {a b : Schema} {rest rest' : List Line}
    (hrest : ∀ line ∈ rest.head?, ¬ opens line) (hrest' : ∀ line ∈ rest'.head?, ¬ opens line)
    (h : (a.map block).flatten ++ rest = (b.map block).flatten ++ rest') :
    List.Forall₂ (fun m n => block m = block n) a b ∧ rest = rest' := by
  induction a generalizing b with
  | nil =>
      cases b with
      | nil => exact ⟨.nil, h⟩
      | cons n b =>
          obtain ⟨opening, inner, hlines, hopens, -⟩ := hblock n
          rw [List.map_cons, List.flatten_cons, hlines] at h
          have heq : rest = opening :: _ := h
          rw [heq] at hrest
          exact absurd hopens (hrest opening rfl)
  | cons m a ih =>
      obtain ⟨opening, inner, hlines, hopens, hinner⟩ := hblock m
      cases b with
      | nil =>
          rw [List.map_cons, List.flatten_cons, hlines] at h
          have heq : opening :: _ = rest' := h
          rw [← heq] at hrest'
          exact absurd hopens (hrest' opening rfl)
      | cons n b =>
          obtain ⟨opening', inner', hlines', hopens', hinner'⟩ := hblock n
          simp only [List.map_cons, List.flatten_cons, hlines, hlines', List.cons_append,
            List.append_assoc, List.nil_append, List.cons.injEq] at h
          obtain ⟨hinners, hrests⟩ := inner_cancel hinner hinner' h.2
          obtain ⟨hall, heq⟩ := ih hrests
          refine ⟨.cons ?_ hall, heq⟩
          rw [hlines, hlines', h.1, hinners]

end SecurityRules
