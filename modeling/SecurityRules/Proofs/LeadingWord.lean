import SecurityRules.Proofs.ColumnLayout

/-!
# The first word of a text

The word that a text starts with stands at the start of its first line, however
the line is broken, cut and filled up, as long as the column has room for it:
`StyledText.Leads.wrap`. A line does not break before its first word is over, and
what is cut off a line that is too wide is cut off at its end.

Words here are made of characters that take one column each. The first part of
the module is about those.
-/

namespace SecurityRules

/-! ## Narrow characters -/

/-- A blank or a visible character of the basic set. It takes one column and changes
nothing around it. -/
def CodePoint.IsNarrow (c : CodePoint) : Prop :=
  0x20 ≤ c.toNat ∧ c.toNat < 0x7F

instance (c : CodePoint) : Decidable c.IsNarrow :=
  inferInstanceAs (Decidable (_ ∧ _))

namespace CodePoint

variable {c : CodePoint} (h : c.IsNarrow)
include h

theorem IsNarrow.width_eq : c.width = 1 :=
  if_pos (by simpa [IsNarrow] using h)

theorem IsNarrow.ne_joiner : c ≠ .joiner := by
  rintro rfl
  exact absurd h (by decide)

theorem IsNarrow.ne_pictureSelector : c ≠ .pictureSelector := by
  rintro rfl
  exact absurd h (by decide)

theorem IsNarrow.isBlank_iff : c.isBlank ↔ c = .scalar ' ' := by
  constructor
  · intro hblank
    obtain ⟨hfirst, hlast⟩ := h
    have hspace : c.toNat = 0x20 := by
      simp [isBlank, within, blankRanges] at hblank
      omega
    cases c with
    | scalar c => exact congrArg _ (Char.toNat_inj.mp hspace)
    | surrogate half =>
        simp only [toNat] at hspace
        omega
  · rintro rfl
    rfl

end CodePoint

theorem Text.widthAfter_narrow {t : Text} (h : ∀ c ∈ t, c.IsNarrow) (last : Option CodePoint) :
    widthAfter last t = t.length := by
  induction t generalizing last with
  | nil => rfl
  | cons c t ih =>
      have hc := h c List.mem_cons_self
      rw [widthAfter_cons hc.ne_joiner, columnsAfter, if_neg hc.ne_pictureSelector, hc.width_eq,
        ih (fun d hd => h d (List.mem_cons_of_mem c hd)), List.length_cons, Nat.add_comm]

namespace Cluster

def single (c : CodePoint) : Cluster :=
  ⟨[c], 1⟩

theorem collect_narrow {front : Text} (h : ∀ c ∈ front, c.IsNarrow) (done : List Cluster)
    (last : Option CodePoint) (rest : Text) :
    collect done last (front ++ rest)
      = collect ((front.map single).reverse ++ done) (front.getLast?.or last) rest := by
  induction front generalizing done last with
  | nil => rfl
  | cons c front ih =>
      have hc := h c List.mem_cons_self
      have hstep : collect done last (c :: (front ++ rest))
          = collect (single c :: done) (some c) (front ++ rest) := by
        rw [collect.eq_def]
        cases done with
        | nil => simp [hc.width_eq, single]
        | cons cluster below => simp [hc.width_eq, hc.ne_joiner, hc.ne_pictureSelector, single]
      rw [List.cons_append, hstep, ih fun d hd => h d (List.mem_cons_of_mem c hd), List.map_cons,
        List.reverse_cons, List.append_assoc, List.getLast?_cons]
      cases front.getLast? <;> rfl

/-- What follows a cluster can go into it, but makes it wider by no more than a
picture selector does. -/
theorem exists_collect_cons (top : Cluster) (below : List Cluster) (last : Option CodePoint)
    (t : Text) :
    ∃ first rest, collect (top :: below) last t = below.reverse ++ first :: rest
      ∧ top.text <+: first.text ∧ first.width ≤ top.width + Text.widthAfter.gain last := by
  have hgrown : ∀ (more : Text) (gain : Nat), top.text <+: (top.extend more gain).text :=
    fun more gain => List.prefix_append _ _
  induction t using Text.joiner_induction generalizing top below last with
  | nil => exact ⟨top, [], List.reverse_cons, List.prefix_rfl, Nat.le_add_right _ _⟩
  | dangling =>
      exact ⟨top.extend [.joiner] 0, [], List.reverse_cons, hgrown _ _, Nat.le_add_right _ _⟩
  | joined d t ih =>
      obtain ⟨first, rest, hcollect, htext, hwidth⟩ :=
        ih (top.extend [.joiner, d] 0) below last fun more gain => List.prefix_append _ _
      exact ⟨first, rest, hcollect, (hgrown _ _).trans htext, hwidth⟩
  | other c t hc ih =>
      by_cases hselector : c = .pictureSelector && last.any CodePoint.hasPicture
      · obtain ⟨first, rest, hcollect, htext, hwidth⟩ :=
          ih (top.extend [c] 1) below none fun more gain => List.prefix_append _ _
        refine ⟨first, rest, ?_, (hgrown _ _).trans htext, Nat.le_trans hwidth ?_⟩
        · rw [collect.eq_def]
          simp only
          rw [if_neg hc, if_pos hselector, hcollect]
        · rw [Bool.and_eq_true] at hselector
          exact Nat.le_of_eq (congrArg (top.width + ·) (if_pos hselector.2).symm)
      · by_cases hzero : c.width = 0
        · obtain ⟨first, rest, hcollect, htext, hwidth⟩ :=
            ih (top.extend [c] 0) below last fun more gain => List.prefix_append _ _
          refine ⟨first, rest, ?_, (hgrown _ _).trans htext, hwidth⟩
          rw [collect.eq_def]
          simp only
          rw [if_neg hc, if_neg hselector, if_pos hzero, hcollect]
        · -- the next character starts a cluster of its own
          obtain ⟨first, rest, hcollect, -⟩ :=
            ih ⟨[c], c.width⟩ (top :: below) (some c) fun more gain => List.prefix_append _ _
          refine ⟨top, first :: rest, ?_, List.prefix_rfl, Nat.le_add_right _ _⟩
          rw [collect.eq_def]
          simp only
          rw [if_neg hc, if_neg hselector, if_neg hzero, hcollect, List.reverse_cons,
            List.append_assoc]
          rfl

theorem cut_singles {front : Text} {columns : Nat} (h : front.length ≤ columns)
    (rest : List Cluster) :
    cut columns (front.map single ++ rest) = front ++ cut (columns - front.length) rest := by
  induction front generalizing columns with
  | nil => rfl
  | cons c front ih =>
      rw [List.length_cons] at h
      have hone : (single c).width = 1 := rfl
      have hsub : columns - 1 - front.length = columns - (front.length + 1) := by omega
      rw [List.map_cons, List.cons_append, cut, hone, if_neg (by omega), if_pos (by omega),
        ih (by omega), List.length_cons, hsub]
      rfl

end Cluster

/-- What is narrow at the start of a text is not cut off. -/
theorem Text.prefix_fit {front t : Text} (hfront : ∀ c ∈ front, c.IsNarrow) (h : front <+: t)
    {columns : Nat} (hcolumns : front.length < columns) : front <+: t.fit columns := by
  unfold fit
  split
  · exact h.trans (List.prefix_append _ _)
  · obtain ⟨rest, rfl⟩ := h
    rcases List.eq_nil_or_concat front with rfl | ⟨init, last, rfl⟩
    · exact List.nil_prefix
    · rw [List.concat_eq_append] at hfront hcolumns ⊢
      rw [List.length_append, List.length_singleton] at hcolumns
      obtain ⟨first, more, hcollect, htext, hwidth⟩ :=
        Cluster.exists_collect_cons (.single last) (init.map .single).reverse (some last) rest
      have hclusters : Text.clusters (init ++ [last] ++ rest)
          = init.map .single ++ first :: more := by
        rw [clusters, Cluster.collect_narrow hfront, List.append_nil, List.map_append,
          List.reverse_append, List.getLast?_append]
        rw [List.reverse_reverse] at hcollect
        exact hcollect
      have hgain : widthAfter.gain (some last) ≤ 1 := by
        unfold widthAfter.gain
        split <;> omega
      have hroom : first.width ≤ columns - init.length := by
        have hone : (Cluster.single last).width = 1 := rfl
        omega
      rw [hclusters, Cluster.cut_singles (by omega), Cluster.cut, if_neg (by omega), if_pos hroom,
        ← List.append_assoc]
      exact ((List.prefix_append_right_inj init).mpr htext).trans (List.prefix_append _ _)

/-! ## The first word -/

/-- A word of visible characters of the basic set. -/
structure Text.IsOpening (word : Text) : Prop where
  ne_nil : word ≠ []
  visible : ∀ c ∈ word, c.IsNarrow ∧ c ≠ .scalar ' '

namespace Text

/-- A word with a blank after it. -/
def opening (word : Text) : Text :=
  word ++ [.scalar ' ']

section

variable {word : Text} (hword : word.IsOpening)
include hword

theorem IsOpening.not_isBlank {c : CodePoint} (hc : c ∈ word) : c.isBlank = false := by
  obtain ⟨hnarrow, hspace⟩ := hword.visible c hc
  exact Bool.eq_false_iff.mpr fun hblank => hspace (hnarrow.isBlank_iff.mp hblank)

theorem IsOpening.narrow {c : CodePoint} (hc : c ∈ word.opening) : c.IsNarrow := by
  rcases List.mem_append.mp hc with hc | hc
  · exact (hword.visible c hc).1
  · rw [List.mem_singleton.mp hc]
    decide

/-- Nothing that ends a line or fills up columns stands in an opening. -/
theorem IsOpening.not_mem {mark : Char} (hmark : ¬ (CodePoint.scalar mark).IsNarrow) :
    .scalar mark ∉ word.opening :=
  fun hmem => hmark (hword.narrow hmem)

theorem IsOpening.trimEnd_append {blanks : Text} (h : ∀ c ∈ blanks, c.isBlank) :
    (word ++ blanks).trimEnd = word := by
  rcases List.eq_nil_or_concat word with rfl | ⟨init, last, rfl⟩
  · exact absurd rfl hword.ne_nil
  · have hlast : last.isBlank = false := hword.not_isBlank (by simp)
    rw [List.concat_eq_append, trimEnd, List.reverse_append, List.dropWhile_append_of_pos
      (fun c hc => h c (List.mem_reverse.mp hc)), List.reverse_append, List.reverse_singleton,
      List.singleton_append, List.dropWhile_cons_of_neg (by rw [hlast]; exact Bool.false_ne_true)]
    simp

end

/-- While a word is read, nothing ends. -/
theorem wordsFrom_append {front : Text} (h : ∀ c ∈ front, c.isBlank = false) {word : Text}
    (hword : word.getLast?.any CodePoint.isBlank = false) (rest : Text) :
    wordsFrom word (front ++ rest) = wordsFrom (word ++ front) rest := by
  induction front generalizing word with
  | nil => rw [List.nil_append, List.append_nil]
  | cons c front ih =>
      have hc := h c List.mem_cons_self
      rw [List.cons_append, wordsFrom, hword, Bool.and_false, Bool.false_and,
        if_neg Bool.false_ne_true, ih (fun d hd => h d (List.mem_cons_of_mem c hd)),
        List.append_assoc]
      · rfl
      · rw [List.getLast?_append, List.getLast?_singleton, Option.some_or]
        exact hc

/-- The blanks after a word belong to it. -/
theorem wordsFrom_blanks {word : Text} (hlast : word.getLast?.any CodePoint.isBlank)
    (hword : word.all CodePoint.isBlank = false) (rest : Text) :
    ∃ blanks words, wordsFrom word rest = (word ++ blanks) :: words
      ∧ ∀ c ∈ blanks, c.isBlank := by
  induction rest generalizing word with
  | nil =>
      refine ⟨[], [], ?_, List.forall_mem_nil _⟩
      rw [wordsFrom, hword, if_neg Bool.false_ne_true, List.append_nil]
  | cons c rest ih =>
      rw [wordsFrom, hlast, hword]
      cases hc : c.isBlank with
      | false =>
          refine ⟨[], wordsFrom [c] rest, ?_, List.forall_mem_nil _⟩
          rw [if_pos (by decide), List.append_nil]
      | true =>
          rw [if_neg (by decide)]
          have hlast' : (word ++ [c]).getLast?.any CodePoint.isBlank := by
            rw [List.getLast?_append, List.getLast?_singleton]
            exact hc
          have hword' : (word ++ [c]).all CodePoint.isBlank = false := by
            rw [List.all_append, hword, Bool.false_and]
          obtain ⟨blanks, words, hwords, hblanks⟩ := ih hlast' hword'
          refine ⟨c :: blanks, words, ?_, List.forall_mem_cons.mpr ⟨hc, hblanks⟩⟩
          rw [hwords, List.append_assoc]
          rfl

theorem IsOpening.exists_wordsFrom {word : Text} (hword : word.IsOpening) (rest : Text) :
    ∃ blanks words, wordsFrom [] (word.opening ++ rest) = (word.opening ++ blanks) :: words
      ∧ ∀ c ∈ blanks, c.isBlank := by
  have hspace : wordsFrom [] (word.opening ++ rest) = wordsFrom word.opening rest := by
    rw [opening, List.append_assoc,
      wordsFrom_append (fun c hc => hword.not_isBlank hc) rfl, List.nil_append,
      List.singleton_append, wordsFrom]
    exact if_neg Bool.false_ne_true
  rw [hspace]
  refine wordsFrom_blanks ?_ ?_ rest
  · rw [opening, List.getLast?_append]
    rfl
  · obtain ⟨c, more, rfl⟩ := List.exists_cons_of_ne_nil hword.ne_nil
    rw [opening, List.cons_append, List.all_cons, hword.not_isBlank List.mem_cons_self,
      Bool.false_and]

end Text

theorem le_of_mem_startsFrom {place : Nat} {parts : List Text} {start : Nat}
    (h : start ∈ startsFrom place parts) : place ≤ start := by
  induction parts generalizing place with
  | nil => cases h
  | cons part parts ih =>
      rcases List.mem_cons.mp h with rfl | h
      · exact Nat.le_refl _
      · exact Nat.le_trans (Nat.le_add_right _ _) (ih h)

theorem le_of_mem_breaksFrom {overflow : Overflow} {width place column : Nat} {words : List Text}
    {stop : Nat} (h : stop ∈ breaksFrom overflow width place column words) : place ≤ stop := by
  induction words generalizing place column with
  | nil => cases h
  | cons word words ih =>
      rw [breaksFrom] at h
      simp only at h
      split at h
      · exact Nat.le_trans (Nat.le_add_right _ _) (ih h)
      · rcases List.mem_append.mp h with h | h
        · exact le_of_mem_startsFrom (List.mem_filter.mp h).1
        · exact Nat.le_trans (Nat.le_add_right _ _) (ih h)

/-- No line breaks in its first word, if there is room for it. -/
theorem Text.IsOpening.le_of_mem_breaksFrom {word : Text} (hword : word.IsOpening) {width : Nat}
    (hwidth : word.length ≤ width) {overflow : Overflow} {rest : Text} {stop : Nat}
    (h : stop ∈ breaksFrom overflow width 0 0 (wordsFrom [] (word.opening ++ rest))) :
    word.opening.length ≤ stop := by
  obtain ⟨blanks, words, hwords, hblanks⟩ := hword.exists_wordsFrom rest
  have htrim : (word.opening ++ blanks).trimEnd = word := by
    rw [opening, List.append_assoc]
    refine hword.trimEnd_append fun c hc => ?_
    rcases List.mem_cons.mp hc with rfl | hc
    · rfl
    · exact hblanks c hc
  have hnarrow : word.width = word.length :=
    widthAfter_narrow (fun c hc => (hword.visible c hc).1) none
  rw [hwords, breaksFrom] at h
  simp only [htrim, hnarrow] at h
  rw [if_pos (by omega)] at h
  have hle := SecurityRules.le_of_mem_breaksFrom h
  rw [List.length_append] at hle
  omega

namespace StyledText

/-- A text starts with some characters, and no style starts or stops between them. -/
structure Leads (front : Text) (t : StyledText) : Prop where
  text : front <+: t.text
  boundaries : ∀ place ∈ t.boundaries, place = 0 ∨ front.length ≤ place

namespace Leads

variable {front : Text} {t : StyledText}

theorem of_spans (htext : front <+: t.text)
    (h : ∀ span ∈ t.spans, (span.start = 0 ∨ front.length ≤ span.start)
      ∧ (span.stop = 0 ∨ front.length ≤ span.stop)) : t.Leads front := by
  refine ⟨htext, fun place hplace => ?_⟩
  obtain ⟨span, hspan, hplace⟩ := List.mem_flatMap.mp hplace
  simp only [List.mem_cons, List.not_mem_nil, or_false] at hplace
  rcases hplace with rfl | rfl
  · exact (h span hspan).1
  · exact (h span hspan).2

theorem start (h : t.Leads front) {span : Span} (hspan : span ∈ t.spans) :
    span.start = 0 ∨ front.length ≤ span.start :=
  h.boundaries _ (List.mem_flatMap.mpr ⟨span, hspan, List.mem_cons_self⟩)

theorem stop (h : t.Leads front) {span : Span} (hspan : span ∈ t.spans) :
    span.stop = 0 ∨ front.length ≤ span.stop :=
  h.boundaries _ (List.mem_flatMap.mpr
    ⟨span, hspan, List.mem_cons_of_mem _ List.mem_cons_self⟩)

theorem between (h : t.Leads front) {last : Nat} (hlast : front.length ≤ last) :
    (t.between 0 last).Leads front := by
  refine of_spans ?_ fun span hspan => ?_
  · exact List.prefix_take_iff.mpr ⟨h.text, hlast⟩
  · obtain ⟨whole, hwhole, hpart⟩ := List.mem_filterMap.mp hspan
    have hstart := h.start hwhole
    have hstop := h.stop hwhole
    unfold Span.between? at hpart
    simp only at hpart
    split at hpart
    · cases hpart
      simp only
      omega
    · cases hpart

theorem withText (h : t.Leads front) {text : Text} (htext : front <+: text) :
    (t.withText text).Leads front := by
  have hlength := htext.length_le
  unfold StyledText.withText
  split
  · refine of_spans htext fun span hspan => ?_
    obtain ⟨whole, hwhole, hpart⟩ := List.mem_filterMap.mp hspan
    have hstart := h.start hwhole
    have hstop := h.stop hwhole
    unfold Span.take? at hpart
    split at hpart
    · cases hpart
      simp only
      omega
    · cases hpart
  · exact ⟨htext, h.boundaries⟩

theorem append (h : t.Leads front) (u : StyledText) : (t.append u).Leads front := by
  have hlength := h.text.length_le
  refine of_spans (h.text.trans (List.prefix_append _ _)) fun span hspan => ?_
  rcases List.mem_append.mp hspan with hspan | hspan
  · exact ⟨h.start hspan, h.stop hspan⟩
  · obtain ⟨shifted, -, rfl⟩ := List.mem_map.mp hspan
    simp only [Span.shift]
    omega

/-- The first of the parts between places that lie behind the front. -/
theorem divide (h : t.Leads front) {places : List Nat} (hplaces : ∀ p ∈ places, front.length ≤ p) :
    ∃ first rest, t.divide places = first :: rest ∧ first.Leads front := by
  unfold StyledText.divide
  cases places with
  | nil => exact ⟨t, [], rfl, h⟩
  | cons place places => exact ⟨_, _, rfl, h.between (hplaces place List.mem_cons_self)⟩

theorem lines (h : t.Leads front) (hfront : .scalar '\n' ∉ front) :
    ∃ first rest, t.lines = first :: rest ∧ first.Leads front := by
  obtain ⟨after, hafter⟩ := h.text
  obtain ⟨line, lines, hlines⟩ := Text.exists_splitAt_append hfront after
  rw [hafter] at hlines
  unfold StyledText.lines
  rw [hlines]
  cases lines with
  | nil => exact ⟨t, [], rfl, h⟩
  | cons next lines =>
      refine ⟨_, _, rfl, h.between ?_⟩
      rw [Nat.zero_add, List.length_append]
      exact Nat.le_add_right _ _

end Leads

theorem mem_placesAfter {mark : CodePoint} {text : Text} {place stop : Nat}
    (h : stop ∈ text.placesAfter mark place) : place < stop ∧ stop ≤ place + text.length := by
  induction text generalizing place with
  | nil => cases h
  | cons c text ih =>
      have hrest (hstop : stop ∈ Text.placesAfter mark (place + 1) text) :
          place < stop ∧ stop ≤ place + (c :: text).length := by
        have hbounds := ih hstop
        rw [List.length_cons]
        omega
      rw [Text.placesAfter] at h
      split at h
      · rcases List.mem_cons.mp h with rfl | h
        · rw [List.length_cons]
          omega
        · exact hrest h
      · exact hrest h

theorem placesAfter_append {mark : CodePoint} {front : Text} (h : mark ∉ front) (rest : Text)
    (place : Nat) :
    Text.placesAfter mark place (front ++ rest)
      = Text.placesAfter mark (place + front.length) rest := by
  induction front generalizing place with
  | nil => rfl
  | cons c front ih =>
      rw [List.mem_cons, not_or] at h
      rw [List.cons_append, Text.placesAfter, if_neg (Ne.symm h.1), ih h.2, List.length_cons]
      congr 1
      omega

namespace Leads

variable {front : Text} {t : StyledText}

theorem fillTab (h : t.Leads front) (hlength : front.length < t.text.length) (column : Nat) :
    (t.fillTab column).Leads front := by
  have hdrop : front <+: t.text.dropLast := by
    rw [List.dropLast_eq_take]
    exact List.prefix_take_iff.mpr ⟨h.text, by omega⟩
  refine of_spans ?_ fun span hspan => ?_
  · exact (hdrop.trans (List.prefix_append _ _)).trans (List.prefix_append _ _)
  · obtain ⟨whole, hwhole, rfl⟩ := List.mem_map.mp hspan
    have hstart := h.start hwhole
    have hstop := h.stop hwhole
    have hfront := hdrop.length_le
    split
    · simp only [List.length_append] at *
      omega
    · exact ⟨hstart, hstop⟩

theorem expandTabs (h : t.Leads front) (hfront : .scalar '\t' ∉ front) :
    t.expandTabs.Leads front := by
  have hplaces : ∀ p ∈ t.text.placesAfter (.scalar '\t') 0,
      front.length < p ∧ p ≤ t.text.length := by
    intro p hp
    obtain ⟨after, hafter⟩ := h.text
    rw [← hafter, placesAfter_append hfront] at hp
    have hbounds := mem_placesAfter hp
    rw [← hafter, List.length_append]
    omega
  unfold StyledText.expandTabs StyledText.divide
  cases htabs : t.text.placesAfter (.scalar '\t') 0 with
  | nil => exact h
  | cons place places =>
      rw [htabs] at hplaces
      obtain ⟨hbehind, hinside⟩ := hplaces place List.mem_cons_self
      have hfirst : (t.between 0 place).Leads front := h.between (Nat.le_of_lt hbehind)
      have hlength : front.length < (t.between 0 place).text.length := by
        simp only [StyledText.between, List.drop_zero, List.length_take]
        omega
      -- the first part ends in a tab, and there is one after it
      cases places <;> exact (hfirst.fillTab hlength 0).append _

theorem dropOverhang (h : t.Leads front) {width : Nat} (hwidth : front.length ≤ width) :
    (t.dropOverhang width).Leads front := by
  have hlength := h.text.length_le
  refine h.withText (List.prefix_take_iff.mpr ⟨h.text, ?_⟩)
  omega

theorem truncate (h : t.Leads front) (hfront : ∀ c ∈ front, c.IsNarrow) {width : Nat}
    (hwidth : front.length < width) : (t.truncate .fold width).Leads front := by
  unfold StyledText.truncate
  split
  · exact h
  · exact h.withText (Text.prefix_fit hfront h.text hwidth)

/-- The word that a text starts with stands at the start of its first line. -/
theorem wrap {word : Text} (hword : word.IsOpening) (h : t.Leads word.opening) {width : Nat}
    (hwidth : word.opening.length < width) :
    ∃ first rest, t.wrap .fold none width = first :: rest ∧ first.Leads word.opening := by
  obtain ⟨line, lines, hlines, hline⟩ := h.lines (hword.not_mem (by decide))
  have hexpanded := hline.expandTabs (hword.not_mem (by decide))
  have hroom : word.length ≤ width := by
    rw [Text.opening, List.length_append] at hwidth
    omega
  have hbreaks : ∀ p ∈ breaksFrom .fold width 0 0 (Text.wordsFrom [] line.expandTabs.text),
      word.opening.length ≤ p := by
    intro p hp
    obtain ⟨after, hafter⟩ := hexpanded.text
    rw [← hafter] at hp
    exact hword.le_of_mem_breaksFrom hroom hp
  obtain ⟨first, rest, hdivide, hfirst⟩ := hexpanded.divide hbreaks
  have hplaced := (hfirst.dropOverhang (Nat.le_of_lt hwidth)).truncate
    (fun c hc => hword.narrow hc) hwidth
  rw [StyledText.wrap, hlines, List.flatMap_cons, breakLine, hdivide]
  exact ⟨_, _, rfl, hplaced⟩

end Leads

/-- In a text of one style, no style starts or stops between its first characters. -/
theorem IsEven.leads {t : StyledText} (heven : t.IsEven) {front : Text} (h : front <+: t.text) :
    t.Leads front := by
  refine .of_spans h fun span hspan => ?_
  obtain ⟨hstart, hstop⟩ := heven span hspan
  exact ⟨Or.inl hstart, Or.inr (hstop ▸ h.length_le)⟩

theorem exists_segmentsFrom {boundaries : List Nat} {place : Nat} {segment : Text}
    (h : segment ≠ []) (t : Text) :
    ∃ first rest, segmentsFrom boundaries place segment t = first :: rest
      ∧ segment <+: first := by
  induction t generalizing place segment with
  | nil =>
      rw [segmentsFrom, if_neg (by simpa using h)]
      exact ⟨segment, [], rfl, List.prefix_rfl⟩
  | cons c t ih =>
      rw [segmentsFrom]
      split
      · exact ⟨segment, _, rfl, List.prefix_rfl⟩
      · have hnext : segment ++ [c] ≠ [] := by simp
        obtain ⟨first, rest, hsegments, hfirst⟩ : ∃ first rest,
            segmentsFrom boundaries (place + 1) (segment ++ [c]) t = first :: rest
              ∧ segment ++ [c] <+: first := ih hnext
        exact ⟨first, rest, hsegments, (List.prefix_append _ _).trans hfirst⟩

theorem Leads.segments {front : Text} {t : StyledText} (h : t.Leads front) (hfront : front ≠ []) :
    ∃ first rest, t.segments = first :: rest ∧ front <+: first := by
  obtain ⟨c, front, rfl⟩ := List.exists_cons_of_ne_nil hfront
  obtain ⟨after, hafter⟩ := h.text
  rw [StyledText.segments, ← hafter, List.cons_append, segmentsFrom, List.isEmpty_nil,
    Bool.not_true, Bool.and_false, if_neg Bool.false_ne_true, segmentsFrom_append]
  · exact exists_segmentsFrom (List.cons_ne_nil _ _) after
  · intro place hplace
    have hboundary := h.boundaries place hplace
    rw [List.length_cons] at hboundary
    omega

end StyledText

theorem prefix_cropSegments {front first : Text} (hfront : ∀ c ∈ front, c.IsNarrow)
    (hfirst : front <+: first) {width : Nat} (hwidth : front.length < width) (rest : List Text) :
    front <+: (cropSegments width (first :: rest)).flatten := by
  rw [cropSegments]
  split
  · rw [List.flatten_cons]
    exact hfirst.trans (List.prefix_append _ _)
  · rw [List.flatten_singleton]
    exact Text.prefix_fit hfront hfirst hwidth

end SecurityRules
