import SecurityRules.Console.Page
import SecurityRules.Proofs.LeadingWord

/-!
# What a console shows

A text is shown on every console if its styles can be read (`Console.page_eq_ok`),
with the word that it starts with at its start (`Console.prefix_layOut`). Lone
halves are not made up on the way, so what is shown of a text without them can be
put out (`Console.refused?_layOut`). A text in which nothing is replaced or dropped,
and whose lines are not too long, is shown as it is: `Console.Keeps.clean_eq` and
`Console.layOut_of_fits`.
-/

namespace SecurityRules

/-! ## Lone halves -/

/-- A text without lone halves. -/
def Text.IsWhole (t : Text) : Prop :=
  ∀ c ∈ t, c.isSurrogate = false

instance (t : Text) : Decidable t.IsWhole :=
  inferInstanceAs (Decidable (∀ c ∈ t, _))

theorem Text.isWhole_ofChars (characters : List Char) : (Text.ofChars characters).IsWhole := by
  intro c hc
  obtain ⟨character, -, rfl⟩ := List.mem_map.mp hc
  rfl

theorem Text.isWhole_append {t u : Text} : (t ++ u).IsWhole ↔ t.IsWhole ∧ u.IsWhole :=
  List.forall_mem_append

theorem Utf8.exists_encodeFrom_iff (t : Text) (start : Nat) :
    (∃ bytes, encodeFrom start t = .ok bytes) ↔ t.IsWhole := by
  induction t generalizing start with
  | nil => exact ⟨fun _ => List.forall_mem_nil _, fun _ => ⟨[], rfl⟩⟩
  | cons c t ih =>
      cases c with
      | scalar c =>
          rw [encodeFrom, Text.IsWhole, List.forall_mem_cons, ← Text.IsWhole, ← ih (start + 1)]
          cases encodeFrom (start + 1) t <;> simp [Except.map, CodePoint.isSurrogate]
      | surrogate half => simp [encodeFrom, Text.IsWhole, CodePoint.isSurrogate]

theorem Text.isWhole_ofLines {lines : List Text} :
    (Text.ofLines lines).IsWhole ↔ ∀ line ∈ lines, line.IsWhole := by
  have hfeed : Text.IsWhole "\n" := by decide
  refine List.forall_mem_flatMap.trans (forall₂_congr fun line _ => ?_)
  exact Text.isWhole_append.trans (and_iff_left hfeed)

namespace Console

variable {console : Console}

/-- A console refuses a text only over its lone halves. -/
theorem refused?_eq_none_iff {t : Text} :
    console.refused? t = none ↔ console.takesHalves ∨ t.IsWhole := by
  rw [← Utf8.exists_encodeFrom_iff t 0, refused?, Utf8.encode]
  cases console.takesHalves with
  | true => simp
  | false => cases Utf8.encodeFrom 0 t <;> simp

/-! ## Clean text -/

theorem eq_append_of_upToColon? {t name : Text} (h : t.upToColon? = some name) :
    ∃ rest, t = name ++ .scalar ':' :: rest := by
  induction t generalizing name with
  | nil => cases h
  | cons c t ih =>
      rw [Text.upToColon?] at h
      split at h
      · next hcolon =>
          cases h
          exact ⟨t, by rw [hcolon]; rfl⟩
      · split at h
        · cases h
        · obtain ⟨more, hmore, rfl⟩ := Option.map_eq_some_iff.mp h
          obtain ⟨rest, rfl⟩ := ih hmore
          exact ⟨rest, rfl⟩

/-- How pictures are looked for in a text: from one name between colons to the next. -/
inductive Searched : Text → Prop
  | done : Searched []
  | named {name rest : Text} (h : Text.upToColon? (name ++ .scalar ':' :: rest) = some name)
      (hrest : Searched rest) : Searched (.scalar ':' :: (name ++ .scalar ':' :: rest))
  | other {c : CodePoint} {rest : Text} (h : c = .scalar ':' → Text.upToColon? rest = none)
      (hrest : Searched rest) : Searched (c :: rest)

theorem searched (t : Text) : Searched t := by
  match t with
  | [] => exact .done
  | c :: rest =>
      by_cases hcolon : c = .scalar ':'
      · cases hname : Text.upToColon? rest with
        | none => exact .other (fun _ => hname) (searched rest)
        | some name =>
            obtain ⟨after, hrest⟩ := eq_append_of_upToColon? hname
            rw [hcolon, hrest]
            exact .named (hrest ▸ hname) (searched after)
      · exact .other (fun h => absurd h hcolon) (searched rest)
termination_by t.length
decreasing_by
  · exact Nat.lt_succ_self _
  · rw [hrest, List.length_cons, List.length_append, List.length_cons]
    omega
  · exact Nat.lt_succ_self _

theorem withPictures_skip (console : Console) (taken rest : Text) :
    console.withPictures taken.length (taken ++ rest) = console.withPictures 0 rest := by
  induction taken with
  | nil => rfl
  | cons c taken ih => rw [List.cons_append, List.length_cons, withPictures, ih]

theorem withPictures_named {name rest : Text}
    (h : Text.upToColon? (name ++ .scalar ':' :: rest) = some name) :
    console.withPictures 0 (.scalar ':' :: (name ++ .scalar ':' :: rest))
      = (console.replacement? name).getD (.scalar ':' :: name ++ [.scalar ':'])
        ++ console.withPictures 0 rest := by
  have hskip := withPictures_skip console (name ++ [.scalar ':']) rest
  rw [List.append_assoc, List.length_append] at hskip
  rw [withPictures, if_pos rfl, h]
  exact congrArg _ hskip

theorem withPictures_other {c : CodePoint} {rest : Text}
    (h : c = .scalar ':' → Text.upToColon? rest = none) :
    console.withPictures 0 (c :: rest) = c :: console.withPictures 0 rest := by
  have hnone : (if c = .scalar ':' then Text.upToColon? rest else none) = none := by
    split
    · next hcolon => exact h hcolon
    · rfl
  rw [withPictures, hnone]

theorem isWhole_replacement? {name picture : Text} (h : console.replacement? name = some picture) :
    picture.IsWhole := by
  have hshown : ∀ {name selector : Text}, selector.IsWhole →
      (console.picture? name).map (fun picture => Text.ofChars picture ++ selector)
        = some picture → picture.IsWhole := by
    intro name selector hselector hpicture
    obtain ⟨characters, -, rfl⟩ := Option.map_eq_some_iff.mp hpicture
    exact Text.isWhole_append.mpr ⟨Text.isWhole_ofChars _, hselector⟩
  unfold replacement? at h
  simp only at h
  split at h
  · exact hshown (by decide) h
  · exact hshown (by decide) h
  · exact hshown (by decide) h

/-- Cleaning a text makes up no lone half. -/
theorem isWhole_clean {t : Text} (h : t.IsWhole) : (console.clean t).IsWhole := by
  have hpictures : (console.withPictures 0 t).IsWhole := by
    induction searched t with
    | done => exact List.forall_mem_nil _
    | @named name rest hname _ ih =>
        rw [Text.IsWhole, List.forall_mem_cons, List.forall_mem_append, List.forall_mem_cons] at h
        obtain ⟨hcolon, hwhole, -, hrest⟩ := h
        rw [withPictures_named hname]
        refine Text.isWhole_append.mpr ⟨?_, ih hrest⟩
        cases hpicture : console.replacement? name with
        | some picture => exact isWhole_replacement? hpicture
        | none =>
            refine Text.isWhole_append.mpr ⟨List.forall_mem_cons.mpr ⟨hcolon, hwhole⟩, ?_⟩
            exact List.forall_mem_singleton.mpr hcolon
    | other hc _ ih =>
        rw [withPictures_other hc]
        obtain ⟨hfirst, hrest⟩ := List.forall_mem_cons.mp h
        exact List.forall_mem_cons.mpr ⟨hfirst, ih hrest⟩
  exact fun c hc => hpictures c (List.mem_of_mem_filter hc)

/-- A text in which a console finds nothing to replace and nothing to drop. -/
structure Keeps (console : Console) (t : Text) : Prop where
  controls : ∀ c ∈ t, c.within droppedRanges = false
  pictures : ∀ name, .scalar ':' :: (name ++ [.scalar ':']) <:+: t →
    console.replacement? name = none

theorem Keeps.of_infix {t u : Text} (h : console.Keeps t) (hu : u <:+: t) : console.Keeps u :=
  ⟨fun c hc => h.controls c (hu.subset hc), fun name hname => h.pictures name (hname.trans hu)⟩

theorem Keeps.clean_eq {t : Text} (h : console.Keeps t) : console.clean t = t := by
  have hpictures : console.withPictures 0 t = t := by
    induction searched t with
    | done => rfl
    | @named name rest hname _ ih =>
        have hrest : rest <:+: .scalar ':' :: (name ++ .scalar ':' :: rest) :=
          ⟨.scalar ':' :: (name ++ [.scalar ':']), [], by simp⟩
        have hpicture := h.pictures name ⟨[], rest, by simp⟩
        rw [withPictures_named hname, hpicture, ih (h.of_infix hrest)]
        simp
    | other hc _ ih => rw [withPictures_other hc, ih (h.of_infix (List.suffix_cons _ _).isInfix)]
  rw [clean, hpictures, List.filter_eq_self]
  intro c hc
  rw [h.controls c hc]
  rfl

/-- Narrow characters are left alone where no name can start. -/
theorem clean_append {front : Text} (h : ∀ c ∈ front, c.IsNarrow) (hcolon : .scalar ':' ∉ front)
    (rest : Text) : console.clean (front ++ rest) = front ++ console.clean rest := by
  induction front with
  | nil => rfl
  | cons c front ih =>
      obtain ⟨hc, hfront⟩ := List.forall_mem_cons.mp h
      rw [List.mem_cons, not_or] at hcolon
      have hkept : c.within droppedRanges = false := by
        have hnarrow := hc.1
        simp [CodePoint.within, droppedRanges]
        omega
      have hrest := ih hfront hcolon.2
      rw [clean] at hrest ⊢
      rw [List.cons_append, withPictures_other fun heq => absurd heq.symm hcolon.1,
        List.filter_cons_of_pos (by rw [hkept]; rfl), hrest]
      rfl

theorem replacement?_eq_none (h : ∀ name, console.picture? name = none) (name : Text) :
    console.replacement? name = none := by
  unfold replacement?
  simp only [h, Option.map_none]
  split <;> rfl

/-! ## Pages -/

variable {t : StyledText}

/-- A text is shown if its styles can be read. -/
theorem page_eq_ok (console : Console) (h : t.IsReadable) :
    console.page t = .ok (console.layOut t) := by
  rw [page, lines, h.findSome?_wrap]

theorem eq_layOut_of_page {page : Text} (h : console.page t = .ok page) :
    page = console.layOut t := by
  unfold Console.page at h
  split at h
  · cases h
  · exact (Except.ok.inj h).symm

theorem mem_cropped {line : StyledText} {c : CodePoint} (h : c ∈ console.cropped line) :
    c ∈ line.text ∨ c = .scalar ' ' := by
  unfold cropped at h
  split at h
  · have hmem := mem_cropSegments h
    rwa [StyledText.segments, StyledText.flatten_segmentsFrom] at hmem
  · exact Or.inl h

/-- What is shown has no lone half that is not one of the text. -/
theorem isWhole_layOut (htext : t.text.IsWhole) : (console.layOut t).IsWhole := by
  refine Text.isWhole_ofLines.mpr (List.forall_mem_map.mpr fun line hline c hc => ?_)
  rcases mem_cropped hc with hc | rfl
  · rcases (StyledText.partOf_of_mem_wrap hline).codePoints c hc with hc | hc
    · exact htext c hc
    · exact (by decide : StyledText.fillers.IsWhole) c hc
  · rfl

/-- A text without lone halves can be put out on every console. -/
theorem refused?_layOut (htext : console.takesHalves ∨ t.text.IsWhole) :
    console.refused? (console.layOut t) = none :=
  refused?_eq_none_iff.mpr (htext.imp_right isWhole_layOut)

/-- A text that a console shows as it is. -/
structure Shows (console : Console) (t : Text) : Prop where
  keeps : console.Keeps t
  fits : t.Fits console.columns

theorem Shows.of_noPictures {t : Text} (hpictures : ∀ name, console.picture? name = none)
    (hcontrols : ∀ c ∈ t, c.within droppedRanges = false) (hfits : t.Fits console.columns) :
    console.Shows t :=
  ⟨⟨hcontrols, fun name _ => replacement?_eq_none hpictures name⟩, hfits⟩

theorem refused?_plainPage (console : Console) {t : Text} (h : console.takesHalves ∨ t.IsWhole) :
    console.refused? (console.plainPage t) = none :=
  refused?_layOut (h.imp_right isWhole_clean)

/-- A text of one style that fits is shown as it is. -/
theorem layOut_of_fits (heven : t.IsEven) (h : t.text.Fits console.columns) :
    console.layOut t = t.text ++ "\n" := by
  obtain ⟨htexts, hevens⟩ := heven.lines
  have hlines : (console.lines t).map console.cropped = Text.splitAt '\n' t.text := by
    rw [lines, heven.wrap h, List.map_map, ← htexts]
    refine List.map_congr_left fun line hline => ?_
    have hwidth := h.widths _ (heven.mem_splitAt hline)
    have hplace : line.place .fold none console.columns = line :=
      StyledText.truncate_eq_self .fold hwidth
    rw [Function.comp_apply, hplace]
    exact if_neg (Nat.not_lt.mpr (Nat.le_trans (hevens line hline).segmentsWidth_le hwidth))
  rw [layOut, hlines, Text.ofLines_splitAt]

/-- The word that a text starts with is shown first. -/
theorem prefix_layOut (console : Console) {word : Text} (hword : word.IsOpening)
    (hshort : word.length ≤ 11) (hlead : t.Leads word.opening) :
    word.opening <+: console.layOut t := by
  have hroom : word.opening.length < console.columns := by
    have hwide := console.wide
    rw [Text.opening, List.length_append, List.length_singleton]
    omega
  have hnarrow : ∀ c ∈ word.opening, c.IsNarrow := fun c hc => hword.narrow hc
  obtain ⟨first, rest, hlines, hfirst⟩ := hlead.wrap hword hroom
  have hcropped : word.opening <+: console.cropped first := by
    unfold cropped
    split
    · obtain ⟨segment, segments, hsegments, hsegment⟩ :=
        hfirst.segments (List.append_ne_nil_of_right_ne_nil _ (List.cons_ne_nil _ _))
      rw [hsegments]
      exact prefix_cropSegments hnarrow hsegment hroom segments
    · exact hfirst.text
  rw [layOut, lines, hlines, List.map_cons, Text.ofLines, List.flatMap_cons, List.append_assoc]
  exact hcropped.trans (List.prefix_append _ _)

theorem prefix_plainPage (console : Console) {word t : Text} (hword : word.IsOpening)
    (hcolon : .scalar ':' ∉ word) (hshort : word.length ≤ 11) (h : word.opening <+: t) :
    word.opening <+: console.plainPage t := by
  obtain ⟨rest, rfl⟩ := h
  have hbare : .scalar ':' ∉ word.opening := by simpa [Text.opening] using hcolon
  refine console.prefix_layOut hword hshort ((StyledText.isEven_plain _).leads ?_)
  rw [clean_append (fun c hc => hword.narrow hc) hbare]
  exact List.prefix_append _ _

end Console

end SecurityRules
