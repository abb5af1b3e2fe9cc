import Mathlib.Data.List.Basic
import SecurityRules.Console.Wrap

/-!
# Text in a column

What the layout of a styled text keeps of it. Whatever is laid out, each line is
a part of the text: it has no styles and no code points of its own, but for the
ones that fill up a column (`StyledText.partOf_of_mem_wrap`). A text that fits is
laid out line by line, as it is (`StyledText.IsEven.wrap`).

Since a joiner draws characters into one another, the width of a text is not the
sum of its parts; the first section has the inequalities that are left.
-/

namespace SecurityRules

namespace Text

/-! ## Widths of parts -/

/-- A joiner is taken together with what it joins. -/
theorem joiner_induction {motive : Text → Prop} (nil : motive []) (dangling : motive [.joiner])
    (joined : ∀ d t, motive t → motive (.joiner :: d :: t))
    (other : ∀ c t, c ≠ .joiner → motive t → motive (c :: t)) (t : Text) : motive t := by
  match t with
  | [] => exact nil
  | c :: t =>
      by_cases hc : c = .joiner
      · cases t with
        | nil => exact hc ▸ dangling
        | cons d t => exact hc ▸ joined d t (joiner_induction nil dangling joined other t)
      · exact other c t hc (joiner_induction nil dangling joined other t)
termination_by t.length

/-- The columns that a character adds. -/
def columnsAfter (last : Option CodePoint) (c : CodePoint) : Nat :=
  if c = .pictureSelector then widthAfter.gain last else c.width

/-- What a picture selector may turn into a picture after one more character. -/
def lastAfter (last : Option CodePoint) (c : CodePoint) : Option CodePoint :=
  if c = .pictureSelector then none else if c.width = 0 then last else some c

theorem widthAfter_cons {last : Option CodePoint} {c : CodePoint} (hc : c ≠ .joiner) (t : Text) :
    widthAfter last (c :: t) = columnsAfter last c + widthAfter (lastAfter last c) t := by
  cases t with
  | nil => rfl
  | cons d rest =>
      rw [lastAfter, columnsAfter, widthAfter, if_neg hc]
      split
      · rfl
      · split
        · next hwidth => rw [hwidth, Nat.zero_add]
        · rfl

theorem widthAfter_joined (last : Option CodePoint) (d : CodePoint) (t : Text) :
    widthAfter last (.joiner :: d :: t) = widthAfter last t := by
  rw [widthAfter, if_pos rfl]

theorem widthAfter_joiner (last : Option CodePoint) : widthAfter last [.joiner] = 0 := by
  rw [widthAfter, if_neg (by decide)]
  decide +kernel

theorem widthAfter_none_le (last : Option CodePoint) (t : Text) :
    widthAfter none t ≤ widthAfter last t := by
  induction t using joiner_induction generalizing last with
  | nil => exact Nat.le_refl 0
  | dangling =>
      rw [widthAfter_joiner]
      exact Nat.zero_le _
  | joined d t ih =>
      rw [widthAfter_joined, widthAfter_joined]
      exact ih last
  | other c t hc ih =>
      rw [widthAfter_cons hc, widthAfter_cons hc, columnsAfter, columnsAfter, lastAfter, lastAfter]
      split
      · exact Nat.add_le_add_right (Nat.zero_le _) _
      · refine Nat.add_le_add_left ?_ _
        split
        · exact ih last
        · exact Nat.le_refl _

theorem widthAfter_le_append (last : Option CodePoint) (t u : Text) :
    widthAfter last t ≤ widthAfter last (t ++ u) := by
  induction t using joiner_induction generalizing last with
  | nil => exact Nat.zero_le _
  | dangling =>
      rw [widthAfter_joiner]
      exact Nat.zero_le _
  | joined d t ih =>
      rw [List.cons_append, List.cons_append, widthAfter_joined, widthAfter_joined]
      exact ih last
  | other c t hc ih =>
      rw [List.cons_append, widthAfter_cons hc, widthAfter_cons hc]
      exact Nat.add_le_add_left (ih _) _

/-- Parts take no more columns than the whole, unless they are joined. -/
theorem widthAfter_add_le (last : Option CodePoint) {t : Text} (h : t.getLast? ≠ some .joiner)
    (u : Text) : widthAfter last t + width u ≤ widthAfter last (t ++ u) := by
  induction t using joiner_induction generalizing last with
  | nil =>
      rw [widthAfter, Nat.zero_add]
      exact widthAfter_none_le last u
  | dangling => exact absurd rfl h
  | joined d t ih =>
      rw [List.cons_append, List.cons_append, widthAfter_joined, widthAfter_joined]
      refine ih last fun ht => h ?_
      rw [List.getLast?_cons, List.getLast?_cons, ht]
      rfl
  | other c t hc ih =>
      rw [List.cons_append, widthAfter_cons hc, widthAfter_cons hc, Nat.add_assoc]
      refine Nat.add_le_add_left (ih _ fun ht => h ?_) _
      rw [List.getLast?_cons, ht]
      rfl

theorem widthAfter_blanks (last : Option CodePoint) (n : Nat) : widthAfter last (blanks n) = n := by
  induction n generalizing last with
  | zero => rfl
  | succ n ih =>
      have hblank : columnsAfter last (.scalar ' ') = 1 := rfl
      rw [blanks, List.replicate_succ, widthAfter_cons (by decide), hblank]
      exact (congrArg (1 + ·) (ih _)).trans (Nat.add_comm 1 n)

theorem widthAfter_append_blanks_le (last : Option CodePoint) (t : Text) (n : Nat) :
    widthAfter last (t ++ blanks n) ≤ widthAfter last t + n := by
  induction t using joiner_induction generalizing last with
  | nil =>
      rw [List.nil_append, widthAfter_blanks]
      exact Nat.le_add_left n _
  | dangling =>
      -- the joiner takes in a blank
      cases n with
      | zero => exact Nat.le_refl _
      | succ n =>
          rw [widthAfter_joiner, blanks, List.replicate_succ, List.cons_append, List.nil_append,
            widthAfter_joined, ← blanks, widthAfter_blanks]
          omega
  | joined d t ih =>
      rw [List.cons_append, List.cons_append, widthAfter_joined, widthAfter_joined]
      exact ih last
  | other c t hc ih =>
      rw [List.cons_append, widthAfter_cons hc, widthAfter_cons hc, Nat.add_assoc]
      exact Nat.add_le_add_left (ih _) _

/-! ## Words -/

theorem trimEnd_prefix (t : Text) : t.trimEnd <+: t := by
  have h := List.reverse_prefix.mpr (List.dropWhile_suffix (l := t.reverse) CodePoint.isBlank)
  rwa [List.reverse_reverse] at h

theorem width_trimEnd_le (t : Text) : t.trimEnd.width ≤ t.width := by
  obtain ⟨rest, hrest⟩ := t.trimEnd_prefix
  have h := widthAfter_le_append none t.trimEnd rest
  rwa [hrest] at h

end Text

theorem segmentsWidth_cons (t : Text) (ts : List Text) :
    segmentsWidth (t :: ts) = t.width + segmentsWidth ts := by
  have hstart : ∀ (widths : List Nat) (n : Nat),
      widths.foldl (· + ·) n = n + widths.foldl (· + ·) 0 := by
    intro widths
    induction widths with
    | nil => exact fun n => rfl
    | cons w widths ih =>
        intro n
        rw [List.foldl_cons, List.foldl_cons, ih (n + w), ih (0 + w), Nat.zero_add, Nat.add_assoc]
  rw [segmentsWidth, List.map_cons, List.foldl_cons, hstart, Nat.zero_add]
  rfl

theorem segmentsWidth_append (ts us : List Text) :
    segmentsWidth (ts ++ us) = segmentsWidth ts + segmentsWidth us := by
  induction ts with
  | nil => exact (Nat.zero_add _).symm
  | cons t ts ih =>
      rw [List.cons_append, segmentsWidth_cons, segmentsWidth_cons, ih, Nat.add_assoc]

theorem segmentsWidth_singleton (t : Text) : segmentsWidth [t] = t.width := by
  rw [segmentsWidth_cons]
  rfl

theorem Text.segmentsWidth_wordsFrom_le (word t : Text) :
    segmentsWidth (wordsFrom word t) ≤ (word ++ t).width := by
  fun_induction wordsFrom word t with
  | case1 word hblank => exact Nat.zero_le _
  | case2 word hblank =>
      refine Nat.le_of_eq ?_
      rw [segmentsWidth_singleton, List.append_nil]
  | case3 word c rest hword ih =>
      -- a word ends in a blank, which joins nothing
      have hlast : word.getLast? ≠ some .joiner := by
        intro hlast
        have hblank : Option.any CodePoint.isBlank (some .joiner) = false := by decide
        rw [hlast, hblank, Bool.and_false, Bool.false_and] at hword
        cases hword
      rw [segmentsWidth_cons]
      exact Nat.le_trans (Nat.add_le_add_left ih _) (widthAfter_add_le none hlast (c :: rest))
  | case4 word c rest hword ih => rwa [List.append_assoc] at ih

/-- Nothing breaks where all words fit. -/
theorem breaksFrom_eq_nil {overflow : Overflow} {width column : Nat} {words : List Text}
    (h : column + segmentsWidth words ≤ width) (place : Nat) :
    breaksFrom overflow width place column words = [] := by
  induction words generalizing column place with
  | nil => rfl
  | cons word words ih =>
      rw [segmentsWidth_cons, ← Nat.add_assoc] at h
      have hsize := word.width_trimEnd_le
      rw [breaksFrom]
      simp only
      rw [if_pos (by omega)]
      exact ih h _

/-! ## Clusters -/

namespace Cluster

/-- The text of clusters. -/
def joined (clusters : List Cluster) : Text :=
  clusters.flatMap Cluster.text

theorem joined_collect (done : List Cluster) (last : Option CodePoint) (t : Text) :
    joined (collect done last t) = joined done.reverse ++ t := by
  fun_induction collect done last t <;>
    simp_all [joined, Cluster.extend]

/-- Nothing of a text is left out of its clusters. -/
theorem joined_clusters (t : Text) : joined t.clusters = t :=
  joined_collect [] none t

theorem mem_cut {columns : Nat} {clusters : List Cluster} {c : CodePoint}
    (h : c ∈ cut columns clusters) : c ∈ joined clusters ∨ c = .scalar ' ' := by
  induction clusters generalizing columns with
  | nil => cases h
  | cons cluster rest ih =>
      rw [cut] at h
      split at h
      · cases h
      · split at h
        · rw [joined, List.flatMap_cons, List.mem_append]
          rcases List.mem_append.mp h with h | h
          · exact Or.inl (Or.inl h)
          · exact (ih h).imp_left Or.inr
        · exact Or.inr (List.mem_singleton.mp h)

end Cluster

theorem Text.mem_fit {columns : Nat} {t : Text} {c : CodePoint} (h : c ∈ t.fit columns) :
    c ∈ t ∨ c = .scalar ' ' := by
  unfold fit at h
  split at h
  · exact (List.mem_append.mp h).imp_right List.eq_of_mem_replicate
  · have hcut := Cluster.mem_cut h
    rwa [Cluster.joined_clusters] at hcut

theorem mem_cropSegments {width : Nat} {segments : List Text} {c : CodePoint}
    (h : c ∈ (cropSegments width segments).flatten) :
    c ∈ segments.flatten ∨ c = .scalar ' ' := by
  induction segments generalizing width with
  | nil => cases h
  | cons segment segments ih =>
      rw [cropSegments] at h
      rw [List.flatten_cons, List.mem_append]
      split at h
      · rw [List.flatten_cons, List.mem_append] at h
        rcases h with h | h
        · exact Or.inl (Or.inl h)
        · exact (ih h).imp_left Or.inr
      · rw [List.flatten_singleton] at h
        exact (Text.mem_fit h).imp_left Or.inl

/-! ## Parts -/

namespace StyledText

/-- The code points that fill up a column or stand for what has been cut off. -/
def fillers : Text := " …"

/-- A styled text has no styles but those of another, and no code points but its
code points and the fillers. -/
structure PartOf (part whole : StyledText) : Prop where
  styles : ∀ span ∈ part.spans, ∃ other ∈ whole.spans, other.style = span.style
  codePoints : ∀ c ∈ part.text, c ∈ whole.text ∨ c ∈ fillers

namespace PartOf

theorem refl (t : StyledText) : t.PartOf t :=
  ⟨fun span hspan => ⟨span, hspan, rfl⟩, fun _ hc => Or.inl hc⟩

theorem trans {t u v : StyledText} (htu : t.PartOf u) (huv : u.PartOf v) : t.PartOf v := by
  refine ⟨fun span hspan => ?_, fun c hc => ?_⟩
  · obtain ⟨middle, hmiddle, hsame⟩ := htu.styles span hspan
    obtain ⟨whole, hwhole, hsame'⟩ := huv.styles middle hmiddle
    exact ⟨whole, hwhole, hsame'.trans hsame⟩
  · rcases htu.codePoints c hc with hc | hc
    · exact huv.codePoints c hc
    · exact Or.inr hc

end PartOf

theorem mem_text_between {start stop : Nat} {t : StyledText} {c : CodePoint}
    (h : c ∈ (t.between start stop).text) : c ∈ t.text :=
  List.mem_of_mem_drop (List.mem_of_mem_take h)

theorem partOf_between (start stop : Nat) (t : StyledText) : (t.between start stop).PartOf t := by
  refine ⟨fun span hspan => ?_, fun c hc => Or.inl (mem_text_between hc)⟩
  obtain ⟨whole, hwhole, hpart⟩ := List.mem_filterMap.mp hspan
  unfold Span.between? at hpart
  simp only at hpart
  split at hpart
  · cases hpart
    exact ⟨whole, hwhole, rfl⟩
  · cases hpart

theorem exists_between_of_mem_linesFrom {t line : StyledText} {texts : List Text} {start : Nat}
    (h : line ∈ t.linesFrom start texts) : ∃ first last, line = t.between first last := by
  induction texts generalizing start with
  | nil => cases h
  | cons text texts ih =>
      rcases List.mem_cons.mp h with rfl | h
      · exact ⟨_, _, rfl⟩
      · exact ih h

theorem eq_or_between_of_mem_lines {t line : StyledText} (h : line ∈ t.lines) :
    line = t ∨ ∃ first last, line = t.between first last := by
  unfold lines at h
  split at h
  · exact Or.inl (List.mem_singleton.mp h)
  · exact Or.inr (exists_between_of_mem_linesFrom h)

theorem mem_text_of_mem_lines {t line : StyledText} (h : line ∈ t.lines) {c : CodePoint}
    (hc : c ∈ line.text) : c ∈ t.text := by
  rcases eq_or_between_of_mem_lines h with rfl | ⟨first, last, rfl⟩
  · exact hc
  · exact mem_text_between hc

theorem partOf_of_mem_lines {t line : StyledText} (h : line ∈ t.lines) : line.PartOf t := by
  rcases eq_or_between_of_mem_lines h with rfl | ⟨first, last, rfl⟩
  · exact .refl _
  · exact partOf_between _ _ t

theorem partOf_of_mem_divide {t part : StyledText} {places : List Nat}
    (h : part ∈ t.divide places) : part.PartOf t := by
  unfold divide at h
  split at h
  · rw [List.mem_singleton.mp h]
    exact .refl t
  · obtain ⟨place, -, rfl⟩ := List.mem_map.mp h
    exact partOf_between _ _ t

theorem partOf_withText {text : Text} {t : StyledText}
    (h : ∀ c ∈ text, c ∈ t.text ∨ c ∈ fillers) : (t.withText text).PartOf t := by
  unfold withText
  split
  · refine ⟨fun span hspan => ?_, h⟩
    obtain ⟨whole, hwhole, hpart⟩ := List.mem_filterMap.mp hspan
    unfold Span.take? at hpart
    split at hpart
    · cases hpart
      exact ⟨whole, hwhole, rfl⟩
    · cases hpart
  · exact ⟨fun span hspan => ⟨span, hspan, rfl⟩, h⟩

theorem mem_fillers_of_mem_blanks {n : Nat} {c : CodePoint} (h : c ∈ Text.blanks n) :
    c ∈ fillers := by
  rw [List.eq_of_mem_replicate h]
  exact List.mem_cons_self

theorem partOf_fillTab (column : Nat) (part : StyledText) : (part.fillTab column).PartOf part := by
  refine ⟨fun span hspan => ?_, fun c hc => ?_⟩
  · obtain ⟨whole, hwhole, rfl⟩ := List.mem_map.mp hspan
    refine ⟨whole, hwhole, ?_⟩
    split <;> rfl
  · simp only [fillTab, List.append_assoc, List.mem_append] at hc
    rcases hc with hc | hc | hc
    · exact Or.inl (List.dropLast_subset _ hc)
    · exact Or.inr (mem_fillers_of_mem_blanks hc)
    · exact Or.inr (mem_fillers_of_mem_blanks hc)

theorem partOf_append {t u whole : StyledText} (ht : t.PartOf whole) (hu : u.PartOf whole) :
    (t.append u).PartOf whole := by
  refine ⟨fun span hspan => ?_, fun c hc => ?_⟩
  · rcases List.mem_append.mp hspan with hspan | hspan
    · exact ht.styles span hspan
    · obtain ⟨shifted, hshifted, rfl⟩ := List.mem_map.mp hspan
      exact hu.styles shifted hshifted
  · exact (List.mem_append.mp hc).elim (ht.codePoints c) (hu.codePoints c)

theorem partOf_joinTabbed {whole : StyledText} {parts : List StyledText}
    (h : ∀ part ∈ parts, part.PartOf whole) (column : Nat) :
    (joinTabbed column parts).PartOf whole := by
  fun_induction joinTabbed column parts with
  | case1 => exact ⟨List.forall_mem_nil _, List.forall_mem_nil _⟩
  | case2 column last => exact h last List.mem_cons_self
  | case3 column part rest _ filled ih =>
      exact partOf_append ((partOf_fillTab column part).trans (h part List.mem_cons_self))
        (ih fun part hpart => h part (List.mem_cons_of_mem _ hpart))

theorem partOf_expandTabs (t : StyledText) : t.expandTabs.PartOf t :=
  partOf_joinTabbed (fun _ hpart => partOf_of_mem_divide hpart) 0

theorem partOf_dropOverhang (width : Nat) (t : StyledText) : (t.dropOverhang width).PartOf t :=
  partOf_withText fun _ hc => Or.inl (List.mem_of_mem_take hc)

theorem partOf_truncate (overflow : Overflow) (width : Nat) (t : StyledText) :
    (t.truncate overflow width).PartOf t := by
  have hfit : ∀ (columns : Nat) (c : CodePoint), c ∈ t.text.fit columns →
      c ∈ t.text ∨ c ∈ fillers := by
    intro columns c hc
    rcases Text.mem_fit hc with hc | rfl
    · exact Or.inl hc
    · exact Or.inr List.mem_cons_self
  unfold truncate
  split
  · exact .refl t
  · split
    · exact partOf_withText (hfit width)
    · refine partOf_withText fun c hc => ?_
      rcases List.mem_append.mp hc with hc | hc
      · exact hfit _ c hc
      · exact Or.inr (List.mem_cons_of_mem _ hc)

theorem partOf_align (overflow : Overflow) (alignment : Alignment) (width : Nat) (t : StyledText) :
    (t.align overflow alignment width).PartOf t := by
  have hpad : ∀ {cut : StyledText}, cut.PartOf t → ∀ (n : Nat) (c : CodePoint),
      (c ∈ cut.text ∨ c ∈ Text.blanks n) → c ∈ t.text ∨ c ∈ fillers := fun hcut n c hc =>
    hc.elim (hcut.codePoints c) fun hblank => Or.inr (mem_fillers_of_mem_blanks hblank)
  cases alignment with
  | left =>
      have hcut := partOf_truncate overflow width t
      exact ⟨hcut.styles, fun c hc => hpad hcut _ c (List.mem_append.mp hc)⟩
  | right =>
      have htrim : ∀ c ∈ t.text.trimEnd, c ∈ t.text ∨ c ∈ fillers :=
        fun c hc => Or.inl (t.text.trimEnd_prefix.subset hc)
      have hcut := (partOf_truncate overflow width _).trans (partOf_withText htrim)
      refine ⟨fun span hspan => ?_, fun c hc => hpad hcut _ c (List.mem_append.mp hc).symm⟩
      obtain ⟨shifted, hshifted, rfl⟩ := List.mem_map.mp hspan
      exact hcut.styles shifted hshifted

theorem partOf_place (overflow : Overflow) (alignment : Option Alignment) (width : Nat)
    (t : StyledText) : (t.place overflow alignment width).PartOf t := by
  cases alignment with
  | none => exact partOf_truncate overflow width t
  | some alignment =>
      exact (partOf_truncate overflow width _).trans (partOf_align overflow alignment width t)

/-- Whatever is laid out is a part of the text. -/
theorem partOf_of_mem_wrap {overflow : Overflow} {alignment : Option Alignment} {width : Nat}
    {t line : StyledText} (h : line ∈ t.wrap overflow alignment width) : line.PartOf t := by
  obtain ⟨whole, hwhole, hline⟩ := List.mem_flatMap.mp h
  obtain ⟨part, hpart, rfl⟩ := List.mem_map.mp hline
  obtain ⟨broken, hbroken, rfl⟩ := List.mem_map.mp hpart
  have hexpanded := (partOf_of_mem_divide hbroken).trans (partOf_expandTabs whole)
  exact (partOf_place overflow alignment width _).trans
    ((partOf_dropOverhang width broken).trans (hexpanded.trans (partOf_of_mem_lines hwhole)))

/-- No number in a style is out of reach. -/
def IsReadable (t : StyledText) : Prop :=
  ∀ span ∈ t.spans, ∃ style, Style.ofText span.style = .ok style

theorem IsReadable.styleFault?_eq_none {t : StyledText} (h : t.IsReadable) :
    t.styleFault? = none := by
  refine List.findSome?_eq_none_iff.mpr fun span hspan => ?_
  obtain ⟨style, hstyle⟩ := h span hspan
  rw [hstyle]

theorem IsReadable.of_partOf {part whole : StyledText} (h : whole.IsReadable)
    (hpart : part.PartOf whole) : part.IsReadable := by
  intro span hspan
  obtain ⟨other, hother, hsame⟩ := hpart.styles span hspan
  exact hsame ▸ h other hother

/-- Where the styles of a text can be read, so can those of its lines. -/
theorem IsReadable.findSome?_wrap {t : StyledText} (h : t.IsReadable) (overflow : Overflow)
    (alignment : Option Alignment) (width : Nat) :
    (t.wrap overflow alignment width).findSome? styleFault? = none :=
  List.findSome?_eq_none_iff.mpr fun _ hline =>
    (h.of_partOf (partOf_of_mem_wrap hline)).styleFault?_eq_none

end StyledText

/-! ## Lines -/

namespace Text

theorem splitAt_ne_nil (mark : Char) (t : Text) : Text.splitAt mark t ≠ [] := by
  cases t with
  | nil => exact List.cons_ne_nil _ _
  | cons c rest =>
      rw [Text.splitAt]
      split
      · exact List.cons_ne_nil _ _
      · split <;> exact List.cons_ne_nil _ _

theorem splitAt_cons_of_ne {mark : Char} {c : CodePoint} (hc : c ≠ .scalar mark) (rest : Text) :
    Text.splitAt mark (c :: rest) = (Text.splitAt mark rest).modifyHead (c :: ·) := by
  rw [Text.splitAt, if_neg hc]
  split
  · next h => exact absurd h (splitAt_ne_nil mark rest)
  · next part parts h => rw [h, List.modifyHead_cons]

theorem join_splitAt (mark : Char) (t : Text) :
    Text.join [.scalar mark] (Text.splitAt mark t) = t := by
  induction t with
  | nil => rfl
  | cons c rest ih =>
      obtain ⟨line, lines, hlines⟩ := List.exists_cons_of_ne_nil (splitAt_ne_nil mark rest)
      rw [hlines] at ih
      by_cases hc : c = .scalar mark
      · rw [Text.splitAt, if_pos hc, hlines, Text.join, List.intercalate_cons_cons]
        exact hc ▸ congrArg (CodePoint.scalar mark :: ·) ih
      · rw [splitAt_cons_of_ne hc, hlines, List.modifyHead_cons]
        cases lines with
        | nil => exact congrArg (c :: ·) ih
        | cons next lines => exact congrArg (c :: ·) ih

/-- Lines that were cut apart are a text again, with a line feed at its end. -/
theorem ofLines_splitAt (t : Text) :
    ofLines (Text.splitAt '\n' t) = t ++ Text.ofString "\n" := by
  induction t with
  | nil => rfl
  | cons c rest ih =>
      by_cases hc : c = .scalar '\n'
      · rw [Text.splitAt, if_pos hc, ofLines, List.flatMap_cons, ← ofLines, ih, hc]
        rfl
      · obtain ⟨line, lines, hlines⟩ := List.exists_cons_of_ne_nil (splitAt_ne_nil '\n' rest)
        rw [splitAt_cons_of_ne hc, hlines, List.modifyHead_cons]
        rw [hlines] at ih
        exact congrArg (c :: ·) ih

/-- The first line starts with what stands before any line feed. -/
theorem exists_splitAt_append {mark : Char} {front : Text} (h : .scalar mark ∉ front)
    (rest : Text) :
    ∃ line lines, Text.splitAt mark (front ++ rest) = (front ++ line) :: lines := by
  induction front with
  | nil => exact List.exists_cons_of_ne_nil (splitAt_ne_nil mark rest)
  | cons c front ih =>
      rw [List.mem_cons, not_or] at h
      obtain ⟨line, lines, hlines⟩ := ih h.2
      rw [List.cons_append, splitAt_cons_of_ne (Ne.symm h.1), hlines]
      exact ⟨line, lines, rfl⟩

/-- A text that stays as it is in a column of a width: no line is wider, there is no
tab, and a line that ends in a blank takes a column for each of its code points. -/
structure Fits (width : Nat) (t : Text) : Prop where
  widths : ∀ line ∈ Text.splitAt '\n' t, Text.width line ≤ width
  tabs : .scalar '\t' ∉ t
  ends : ∀ line ∈ Text.splitAt '\n' t, Text.trimEnd line = line ∨ line.length ≤ Text.width line

end Text

namespace StyledText

/-- A style reaches over all of the text, or there is none. -/
def IsEven (t : StyledText) : Prop :=
  ∀ span ∈ t.spans, span.start = 0 ∧ span.stop = t.text.length

theorem isEven_plain (text : Text) : IsEven { text } :=
  List.forall_mem_nil _

theorem text_between {t : StyledText} {before line after : Text}
    (h : t.text = before ++ (line ++ after)) :
    (t.between before.length (before.length + line.length)).text = line := by
  simp [between, h]

theorem IsEven.between {t : StyledText} (heven : t.IsEven) {before line after : Text}
    (h : t.text = before ++ (line ++ after)) :
    (t.between before.length (before.length + line.length)).IsEven := by
  intro span hspan
  obtain ⟨whole, hwhole, hpart⟩ := List.mem_filterMap.mp hspan
  obtain ⟨hstart, hstop⟩ := heven whole hwhole
  rw [text_between h]
  rw [h, List.length_append, List.length_append] at hstop
  unfold Span.between? at hpart
  simp only at hpart
  split at hpart
  · cases hpart
    refine ⟨?_, ?_⟩
    · simp only
      omega
    · simp only
      omega
  · cases hpart

theorem IsEven.linesFrom {t : StyledText} (heven : t.IsEven) {before : Text} {lines : List Text}
    (h : t.text = before ++ Text.join [.scalar '\n'] lines) :
    (t.linesFrom before.length lines).map StyledText.text = lines
      ∧ ∀ line ∈ t.linesFrom before.length lines, line.IsEven := by
  induction lines generalizing before with
  | nil => exact ⟨rfl, List.forall_mem_nil _⟩
  | cons first rest ih =>
      rw [StyledText.linesFrom, List.map_cons]
      cases rest with
      | nil =>
          have hfirst : t.text = before ++ (first ++ []) := by
            rw [h, Text.join, List.intercalate_singleton, List.append_nil]
          refine ⟨congrArg (fun line => [line]) (text_between hfirst), ?_⟩
          exact List.forall_mem_singleton.mpr (heven.between hfirst)
      | cons next rest =>
          have hfirst : t.text
              = before ++ (first ++ (.scalar '\n' :: Text.join [.scalar '\n'] (next :: rest))) := by
            rw [h, Text.join, List.intercalate_cons_cons, List.append_assoc]
            rfl
          have hnext : t.text
              = before ++ first ++ [.scalar '\n'] ++ Text.join [.scalar '\n'] (next :: rest) := by
            rw [hfirst, List.append_assoc, List.append_assoc]
            rfl
          have hrest := ih hnext
          rw [List.length_append, List.length_append, List.length_singleton] at hrest
          rw [text_between hfirst, hrest.1]
          exact ⟨rfl, List.forall_mem_cons.mpr ⟨heven.between hfirst, hrest.2⟩⟩

/-- The lines of a text of one style are its parts between line feeds, in that style. -/
theorem IsEven.lines {t : StyledText} (heven : t.IsEven) :
    t.lines.map StyledText.text = Text.splitAt '\n' t.text ∧ ∀ line ∈ t.lines, line.IsEven := by
  have hjoin := Text.join_splitAt '\n' t.text
  unfold StyledText.lines
  split
  · next line hline =>
      rw [hline] at hjoin ⊢
      rw [Text.join, List.intercalate_singleton] at hjoin
      exact ⟨congrArg (fun line => [line]) hjoin.symm, List.forall_mem_singleton.mpr heven⟩
  · have hall : t.text = [] ++ Text.join [.scalar '\n'] (Text.splitAt '\n' t.text) := hjoin.symm
    exact heven.linesFrom hall

theorem IsEven.mem_splitAt {t : StyledText} (heven : t.IsEven) {line : StyledText}
    (h : line ∈ t.lines) : line.text ∈ Text.splitAt '\n' t.text :=
  heven.lines.1 ▸ List.mem_map_of_mem h

/-! ## Text that fits -/

/-- A line with blanks up to the end of its column. -/
def padded (width : Nat) (t : StyledText) : StyledText :=
  { t with text := t.text ++ Text.blanks (width - t.text.width) }

theorem dropOverhang_eq_self {t : StyledText} {width : Nat}
    (h : t.text.trimEnd = t.text ∨ t.text.length ≤ width) : t.dropOverhang width = t := by
  have hnone : min (t.text.length - t.text.trimEnd.length) (t.text.length - width) = 0 := by
    rcases h with h | h
    · rw [h]
      omega
    · omega
  unfold dropOverhang
  simp only
  rw [hnone, Nat.sub_zero, List.take_length, withText, if_neg (Nat.lt_irrefl _)]

theorem truncate_eq_self (overflow : Overflow) {t : StyledText} {width : Nat}
    (h : t.text.width ≤ width) : t.truncate overflow width = t :=
  if_pos h

theorem width_padded_le {t : StyledText} {width : Nat} (h : t.text.width ≤ width) :
    (t.padded width).text.width ≤ width := by
  have hpad := Text.widthAfter_append_blanks_le none t.text (width - t.text.width)
  refine Nat.le_trans hpad ?_
  rw [← Text.width]
  omega

theorem divide_nil (t : StyledText) : t.divide [] = [t] := rfl

theorem expandTabs_eq_self {t : StyledText} (h : .scalar '\t' ∉ t.text) : t.expandTabs = t := by
  have hplaces : ∀ (text : Text) (place : Nat), .scalar '\t' ∉ text →
      text.placesAfter (.scalar '\t') place = [] := by
    intro text
    induction text with
    | nil => exact fun place _ => rfl
    | cons c rest ih =>
        intro place hnone
        rw [List.mem_cons, not_or] at hnone
        rw [Text.placesAfter, if_neg (Ne.symm hnone.1)]
        exact ih _ hnone.2
  rw [expandTabs, hplaces _ _ h, divide_nil]
  rfl

theorem IsEven.breakLine {t : StyledText} (heven : t.IsEven) {width : Nat}
    (h : t.text.Fits width) {line : StyledText} (hline : line ∈ t.lines) (overflow : Overflow) :
    line.breakLine overflow width = [line] := by
  have hmem := heven.mem_splitAt hline
  have hfits := h.widths _ hmem
  have hwords := Nat.le_trans (Text.segmentsWidth_wordsFrom_le [] line.text) hfits
  have htabs : .scalar '\t' ∉ line.text := fun htab => h.tabs (mem_text_of_mem_lines hline htab)
  rw [StyledText.breakLine, expandTabs_eq_self htabs,
    breaksFrom_eq_nil (by rwa [Nat.zero_add]), divide_nil, List.map_singleton,
    dropOverhang_eq_self ((h.ends _ hmem).imp_right fun h => Nat.le_trans h hfits)]

/-- A text of one style that fits is laid out line by line. -/
theorem IsEven.wrap {t : StyledText} (heven : t.IsEven) {width : Nat} (h : t.text.Fits width)
    (overflow : Overflow) (alignment : Option Alignment) :
    t.wrap overflow alignment width = t.lines.map (·.place overflow alignment width) := by
  rw [StyledText.wrap, List.map_eq_flatMap]
  refine List.flatMap_congr fun line hline => ?_
  rw [heven.breakLine h hline, List.map_singleton]

theorem place_left {width : Nat} {line : StyledText} (h : line.text.width ≤ width)
    (overflow : Overflow) : line.place overflow (some .left) width = line.padded width := by
  rw [place, align, truncate_eq_self overflow h]
  exact truncate_eq_self overflow (width_padded_le h)

/-! ## Segments -/

theorem flatten_segmentsFrom (boundaries : List Nat) (place : Nat) (segment t : Text) :
    (segmentsFrom boundaries place segment t).flatten = segment ++ t := by
  fun_induction segmentsFrom boundaries place segment t with
  | case1 place segment hempty => rw [List.isEmpty_iff.mp hempty]; rfl
  | case2 place segment hsegment => rw [List.flatten_singleton, List.append_nil]
  | case3 place segment c rest hboundary ih => rw [List.flatten_cons, ih, List.singleton_append]
  | case4 place segment c rest hboundary ih => rw [ih, List.append_assoc, List.singleton_append]

/-- No segment ends where there is no boundary. -/
theorem segmentsFrom_append {boundaries : List Nat} {place : Nat} {t : Text}
    (h : ∀ p ∈ boundaries, p < place ∨ place + t.length ≤ p) (segment u : Text) :
    segmentsFrom boundaries place segment (t ++ u)
      = segmentsFrom boundaries (place + t.length) (segment ++ t) u := by
  induction t generalizing place segment with
  | nil => rw [List.nil_append, List.append_nil, List.length_nil, Nat.add_zero]
  | cons c t ih =>
      rw [List.length_cons] at h
      have hplace : boundaries.contains place = false := by
        rw [List.contains_eq_mem, decide_eq_false_iff_not]
        intro hmem
        rcases h place hmem with hlt | hle <;> omega
      rw [List.cons_append, segmentsFrom, hplace, Bool.false_and, if_neg Bool.false_ne_true,
        ih fun p hp => (h p hp).imp (by omega) (by omega), List.append_assoc, List.singleton_append]
      congr 1
      rw [List.length_cons]
      omega

theorem segmentsWidth_segmentsFrom {boundaries : List Nat} {place : Nat}
    (h : ∀ p ∈ boundaries, p < place) (segment t : Text) :
    segmentsWidth (segmentsFrom boundaries place segment t) = (segment ++ t).width := by
  have happend := segmentsFrom_append (t := t) (fun p hp => Or.inl (h p hp)) segment []
  rw [List.append_nil] at happend
  rw [happend, segmentsFrom]
  split
  · next hempty =>
      rw [List.isEmpty_iff.mp hempty]
      rfl
  · rw [segmentsWidth_singleton]

theorem segmentsWidth_segmentsFrom_blanks_le {boundaries : List Nat} {place : Nat}
    (h : ∀ p ∈ boundaries, p ≤ place) (segment : Text) (n : Nat) :
    segmentsWidth (segmentsFrom boundaries place segment (Text.blanks n))
      ≤ segment.width + n := by
  cases n with
  | zero =>
      rw [Text.blanks, List.replicate_zero, segmentsFrom]
      split
      · exact Nat.zero_le _
      · rw [segmentsWidth_singleton]
        exact Nat.le_refl _
  | succ n =>
      have hlast := segmentsWidth_segmentsFrom fun p hp => Nat.lt_succ_of_le (h p hp)
      have hblanks : Text.blanks (n + 1) = .scalar ' ' :: Text.blanks n := rfl
      rw [hblanks, segmentsFrom]
      split
      · refine Nat.le_of_eq ?_
        rw [segmentsWidth_cons, hlast, List.singleton_append, ← hblanks, Text.width, Text.width,
          Text.widthAfter_blanks]
      · rw [hlast, List.append_assoc, List.singleton_append, ← hblanks]
        exact Text.widthAfter_append_blanks_le none segment (n + 1)

theorem IsEven.segmentsWidth_segments_le {t : StyledText} (heven : t.IsEven) (n : Nat) :
    segmentsWidth (segments { t with text := t.text ++ Text.blanks n })
      ≤ t.text.width + n := by
  have hboundaries : ∀ p ∈ t.boundaries, p = 0 ∨ p = t.text.length := by
    intro p hp
    obtain ⟨span, hspan, hp⟩ := List.mem_flatMap.mp hp
    obtain ⟨hstart, hstop⟩ := heven span hspan
    simpa [hstart, hstop] using hp
  show segmentsWidth (segmentsFrom t.boundaries 0 [] (t.text ++ Text.blanks n)) ≤ _
  cases htext : t.text with
  | nil =>
      refine segmentsWidth_segmentsFrom_blanks_le (fun p hp => ?_) [] n
      have hp := hboundaries p hp
      rw [htext, List.length_nil] at hp
      omega
  | cons c rest =>
      -- the first code point goes into a segment, boundary or not
      have hplaces : ∀ p ∈ t.boundaries, p = 0 ∨ p = 1 + rest.length := by
        intro p hp
        have hp := hboundaries p hp
        rw [htext, List.length_cons] at hp
        omega
      rw [List.cons_append, segmentsFrom, List.isEmpty_nil, Bool.not_true, Bool.and_false,
        if_neg Bool.false_ne_true, segmentsFrom_append]
      · exact segmentsWidth_segmentsFrom_blanks_le (fun p hp => by have := hplaces p hp; omega) _ n
      · intro p hp
        have := hplaces p hp
        omega

/-- A line of one style takes no more columns when its segments are measured. -/
theorem IsEven.segmentsWidth_le {t : StyledText} (heven : t.IsEven) :
    segmentsWidth t.segments ≤ t.text.width := by
  have hwidth := heven.segmentsWidth_segments_le 0
  rwa [Text.blanks, List.replicate_zero, List.append_nil] at hwidth

end StyledText

end SecurityRules
