import Mathlib.Data.List.Forall2
import SecurityRules.Console.Table
import SecurityRules.Proofs.ConsolePages
import SecurityRules.Proofs.Results

/-!
# Cells show their lines

A cell of a table is measured, cut into lines, wrapped, cut to its column and
filled up with blanks, and its segments are measured once more when they are put
together. `Table.showsAt_rowParts` says that a cell in one style comes through
this unharmed if its column has room for it: a row has a line for each line of the
cell, with nothing but blanks around it.

This holds for lines that stay as they are when they fit (`Text.KeepsLines`).
Columns have the room that they need if the console has it for all of them
(`Table.widths_eq`). In any case there are no lone halves in the lines of a table
that are not in the table itself (`Table.isWhole_lines`).
-/

namespace SecurityRules

/-! ## Segments that fit -/

theorem fitSegments_eq_self {width : Nat} {segments : List Text}
    (h : segmentsWidth segments = width) : fitSegments width segments = segments := by
  rw [fitSegments, h, if_neg (Nat.lt_irrefl _), if_neg (Nat.lt_irrefl _)]

/-- Segments that are not too wide get blanks behind them. -/
theorem exists_fitSegments_eq {width : Nat} {segments : List Text}
    (h : segmentsWidth segments ≤ width) :
    ∃ n, (fitSegments width segments).flatten = segments.flatten ++ Text.blanks n
      ∧ segmentsWidth (fitSegments width segments) = width := by
  by_cases hlt : segmentsWidth segments < width
  · have hblanks := Text.widthAfter_blanks none (width - segmentsWidth segments)
    rw [← Text.width] at hblanks
    refine ⟨width - segmentsWidth segments, ?_⟩
    rw [fitSegments, if_pos hlt]
    constructor
    · rw [List.flatten_append, List.flatten_singleton]
    · rw [segmentsWidth_append, segmentsWidth_singleton, hblanks]
      omega
  · have heq : segmentsWidth segments = width := by omega
    rw [fitSegments_eq_self heq]
    exact ⟨0, (List.append_nil _).symm, heq⟩

theorem mem_fitSegments {width : Nat} {segments : List Text} {c : CodePoint}
    (h : c ∈ (fitSegments width segments).flatten) : c ∈ segments.flatten ∨ c = .scalar ' ' := by
  unfold fitSegments at h
  split at h
  · rw [List.flatten_append, List.flatten_singleton, List.mem_append] at h
    exact h.imp_right List.eq_of_mem_replicate
  · split at h
    · exact mem_cropSegments h
    · exact Or.inl h

/-! ## Lines of cells -/

/-- The lines that are measured are those that are shown, if only line feeds end a line. -/
theorem Text.brokenLines_eq {t : Text} (h : ∀ c ∈ t, c.within breakRanges → c = .scalar '\n') :
    t.brokenLines = Text.splitAt '\n' t := by
  induction t with
  | nil => rfl
  | cons c rest ih =>
      rw [brokenLines, List.splitOnP_cons_eq_if_modifyHead, ← brokenLines,
        ih fun d hd => h d (List.mem_cons_of_mem c hd)]
      by_cases hc : c = .scalar '\n'
      · rw [Text.splitAt, if_pos hc, if_pos (by rw [hc]; rfl)]
      · rw [splitAt_cons_of_ne hc, if_neg fun hwithin => hc (h c List.mem_cons_self hwithin)]

/-- Lines that stay as they are in a column that is wide enough. Only a line feed ends
one, there is no tab, and one that ends in a blank takes a column for each of its code
points. -/
structure Text.KeepsLines (t : Text) : Prop where
  breaks : ∀ c ∈ t, c.within breakRanges → c = .scalar '\n'
  tabs : .scalar '\t' ∉ t
  ends : ∀ line ∈ Text.splitAt '\n' t, line.trimEnd = line ∨ line.length ≤ line.width

instance (t : Text) : Decidable t.KeepsLines :=
  decidable_of_iff (_ ∧ _ ∧ _)
    ⟨fun h => ⟨h.1, h.2.1, h.2.2⟩, fun h => ⟨h.breaks, h.tabs, h.ends⟩⟩

theorem Text.KeepsLines.fits {t : Text} (h : t.KeepsLines) {width : Nat}
    (hwidth : Table.cellWidth t ≤ width) : t.Fits width := by
  refine ⟨fun line hline => Nat.le_trans (le_foldl_max (Or.inr ?_)) hwidth, h.tabs, h.ends⟩
  rw [brokenLines_eq h.breaks]
  exact List.mem_map_of_mem hline

namespace Table

/-- A line with at least one blank on both sides. -/
def Framed (line shown : Text) : Prop :=
  ∃ n, shown = Text.blanks 1 ++ line ++ Text.blanks n ++ Text.blanks 1

theorem framed_cellLine {t : StyledText} {width : Nat} (heven : t.IsEven)
    (hwidth : t.text.width ≤ width) : Framed t.text (cellLine (width + 2) (t.padded width)) := by
  have hsum := heven.segmentsWidth_segments_le (width - t.text.width)
  rw [← StyledText.padded, Nat.add_sub_cancel' hwidth] at hsum
  obtain ⟨n, hflatten, htotal⟩ := exists_fitSegments_eq hsum
  have hblank : (Text.blanks 1).width = 1 := rfl
  have hsegments : (t.padded width).segments.flatten
      = t.text ++ Text.blanks (width - t.text.width) := StyledText.flatten_segmentsFrom _ _ _ _
  rw [hsegments] at hflatten
  rw [Framed, cellLine, Nat.add_sub_cancel, fitSegments_eq_self]
  · refine ⟨width - t.text.width + n, ?_⟩
    rw [List.flatten_append, List.flatten_cons, hflatten]
    simp [Text.blanks]
  · rw [segmentsWidth_append, segmentsWidth_cons, htotal, segmentsWidth_singleton, hblank]
    omega

theorem mem_cellLine {width : Nat} {line : StyledText} {c : CodePoint}
    (h : c ∈ cellLine width line) : c ∈ line.text ∨ c = .scalar ' ' := by
  have hblank : ∀ c ∈ Text.blanks 1, c = .scalar ' ' := by decide
  rcases mem_fitSegments h with h | h
  · rw [List.flatten_append, List.flatten_cons, List.flatten_singleton, List.mem_append,
      List.mem_append] at h
    rcases h with (h | h) | h
    · exact Or.inr (hblank c h)
    · have hmem := mem_fitSegments h
      rwa [StyledText.segments, StyledText.flatten_segmentsFrom] at hmem
    · exact Or.inr (hblank c h)
  · exact Or.inr h

/-- What a cell shows in its column. -/
def shownCell (column : Column × Nat) (cell : StyledText) : List Text :=
  if column.2 ≤ 2 then []
  else (cell.wrap .ellipsis (some column.1.alignment) (column.2 - 2)).map (cellLine column.2)

/-- A cell of one style shows its lines one by one if the column has room for them. -/
theorem framed_shownCell {column : Column × Nat} {cell : StyledText}
    (hleft : column.1.alignment = .left) (hwide : 2 < column.2)
    (hroom : cellWidth cell.text + 2 ≤ column.2) (heven : cell.IsEven)
    (hkeeps : cell.text.KeepsLines) :
    List.Forall₂ Framed (Text.splitAt '\n' cell.text) (shownCell column cell) := by
  obtain ⟨htexts, hevens⟩ := heven.lines
  obtain ⟨width, hwidth⟩ : ∃ width, column.2 = width + 2 := ⟨column.2 - 2, by omega⟩
  have hfits : cell.text.Fits width := hkeeps.fits (by omega)
  rw [shownCell, if_neg (Nat.not_le_of_lt hwide), hwidth, Nat.add_sub_cancel, hleft,
    heven.wrap hfits, ← htexts, List.map_map, List.forall₂_map_left_iff,
    List.forall₂_map_right_iff, List.forall₂_same]
  intro line hline
  have hline' := hfits.widths _ (heven.mem_splitAt hline)
  rw [Function.comp_apply, StyledText.place_left hline']
  exact framed_cellLine (hevens line hline) hline'

theorem isWhole_shownCell {cell : StyledText} (h : cell.text.IsWhole) (column : Column × Nat) :
    ∀ line ∈ shownCell column cell, line.IsWhole := by
  unfold shownCell
  split
  · exact List.forall_mem_nil _
  · refine List.forall_mem_map.mpr fun line hline c hc => ?_
    rcases mem_cellLine hc with hc | rfl
    · rcases (StyledText.partOf_of_mem_wrap hline).codePoints c hc with hc | hc
      · exact h c hc
      · exact (by decide : StyledText.fillers.IsWhole) c hc
    · rfl

/-! ## Rows -/

theorem cellLines_eq {column : Column × Nat} {cell : StyledText} (h : cell.IsReadable) :
    cellLines column cell = .ok (shownCell column cell) := by
  unfold cellLines shownCell
  simp only [h.findSome?_wrap]
  split <;> rfl

/-- The parts between the strokes in each line of a row. -/
def rowParts (edge : Edge) (columns : List (Column × Nat)) (cells : List StyledText) :
    List (List Text) :=
  let shown := (columns.zip cells).map fun pair => shownCell pair.1 pair.2
  let height := (shown.map List.length).foldl max 1
  (List.range height).map fun i =>
    (columns.zip shown).map fun pair =>
      (lineAt? edge height i pair.2).getD (Text.blanks pair.1.2)

/-- Parts between strokes, and at both ends of the line. -/
def barred (bar : Text) (parts : List Text) : Text :=
  bar ++ Text.join bar parts ++ bar

theorem rowLines_eq (bar : Text) (edge : Edge) (columns : List (Column × Nat))
    {cells : List StyledText} (h : ∀ cell ∈ cells, cell.IsReadable) :
    rowLines bar edge columns cells = .ok ((rowParts edge columns cells).map (barred bar)) := by
  have hcells : (columns.zip cells).mapM (fun pair => cellLines pair.1 pair.2)
      = .ok ((columns.zip cells).map fun pair => shownCell pair.1 pair.2) :=
    mapM_eq_ok fun pair hpair => cellLines_eq (h pair.2 (List.of_mem_zip hpair).2)
  rw [rowParts, List.map_map]
  exact congrArg (fun shown => shown >>= _) hcells

section

variable {columns : List (Column × Nat)} {cells : List StyledText} {place : Nat}
  {column : Column × Nat} {cell : StyledText}

theorem length_shownCell_le (edge : Edge) (hcolumn : columns[place]? = some column)
    (hcell : cells[place]? = some cell) :
    (shownCell column cell).length ≤ (rowParts edge columns cells).length := by
  rw [rowParts, List.length_map, List.length_range]
  refine le_foldl_max (Or.inr ?_)
  refine List.mem_map_of_mem (List.mem_map.mpr ⟨(column, cell), ?_, rfl⟩)
  exact List.mem_of_getElem? (List.getElem?_zip_eq_some.mpr ⟨hcolumn, hcell⟩)

theorem getElem?_rowParts (hcolumn : columns[place]? = some column)
    (hcell : cells[place]? = some cell) {i : Nat} {parts : List Text}
    (h : (rowParts .upper columns cells)[i]? = some parts) :
    parts[place]? = some ((shownCell column cell)[i]?.getD (Text.blanks column.2)) := by
  rw [rowParts, List.getElem?_map] at h
  obtain ⟨j, hj, rfl⟩ := Option.map_eq_some_iff.mp h
  obtain ⟨hlt, rfl⟩ := List.getElem?_eq_some_iff.mp hj
  rw [List.getElem_range]
  have hpair : (columns.zip cells)[place]? = some (column, cell) :=
    List.getElem?_zip_eq_some.mpr ⟨hcolumn, hcell⟩
  have hshown : ((columns.zip cells).map fun pair => shownCell pair.1 pair.2)[place]?
      = some (shownCell column cell) := by
    rw [List.getElem?_map, hpair]
    rfl
  have hline : (columns.zip ((columns.zip cells).map fun pair => shownCell pair.1 pair.2))[place]?
      = some (column, shownCell column cell) :=
    List.getElem?_zip_eq_some.mpr ⟨hcolumn, hshown⟩
  rw [List.getElem?_map, hline]
  rfl

end

theorem mem_of_lineAt? {edge : Edge} {height i : Nat} {lines : List Text} {line : Text}
    (h : lineAt? edge height i lines = some line) : line ∈ lines := by
  cases edge with
  | upper => exact List.mem_of_getElem? h
  | lower =>
      rw [lineAt?] at h
      split at h
      · cases h
      · exact List.mem_of_getElem? h

theorem isWhole_blanks (n : Nat) : (Text.blanks n).IsWhole := by
  intro c hc
  rw [List.eq_of_mem_replicate hc]
  rfl

theorem isWhole_join {separator : Text} (hseparator : separator.IsWhole) {ts : List Text}
    (h : ∀ t ∈ ts, t.IsWhole) : (Text.join separator ts).IsWhole := by
  induction ts with
  | nil => exact List.forall_mem_nil _
  | cons t ts ih =>
      obtain ⟨ht, hts⟩ := List.forall_mem_cons.mp h
      cases ts with
      | nil =>
          rw [Text.join, List.intercalate_singleton]
          exact ht
      | cons u ts =>
          rw [Text.join, List.intercalate_cons_cons]
          exact Text.isWhole_append.mpr ⟨Text.isWhole_append.mpr ⟨ht, hseparator⟩, ih hts⟩

/-- No line of a row has a lone half that its cells have not. -/
theorem isWhole_barred_rowParts {bar : Text} (hbar : bar.IsWhole) (edge : Edge)
    (columns : List (Column × Nat)) {cells : List StyledText}
    (h : ∀ cell ∈ cells, cell.text.IsWhole) :
    ∀ line ∈ (rowParts edge columns cells).map (barred bar), line.IsWhole := by
  intro line hline
  obtain ⟨parts, hparts, rfl⟩ := List.mem_map.mp hline
  obtain ⟨i, -, rfl⟩ := List.mem_map.mp hparts
  refine Text.isWhole_append.mpr ⟨Text.isWhole_append.mpr ⟨hbar, isWhole_join hbar ?_⟩, hbar⟩
  refine List.forall_mem_map.mpr fun pair hpair => ?_
  cases hline : lineAt? edge _ i pair.2 with
  | none => exact isWhole_blanks _
  | some line =>
      obtain ⟨source, hsource, heq⟩ := List.mem_map.mp (List.of_mem_zip hpair).2
      exact isWhole_shownCell (h source.2 (List.of_mem_zip hsource).2) source.1 line
        (heq ▸ mem_of_lineAt? hline)

/-- The lines of a row show a text in one of its parts, line by line. -/
def ShowsAt (place : Nat) (t : Text) (row : List (List Text)) : Prop :=
  (Text.splitAt '\n' t).length ≤ row.length
    ∧ ∀ (i : Nat) (parts : List Text), row[i]? = some parts →
      ∃ shown, parts[place]? = some shown ∧ Framed ((Text.splitAt '\n' t)[i]?.getD []) shown

theorem showsAt_rowParts {columns : List (Column × Nat)} {cells : List StyledText} {place : Nat}
    {column : Column × Nat} {cell : StyledText} (hcolumn : columns[place]? = some column)
    (hcell : cells[place]? = some cell) (hleft : column.1.alignment = .left)
    (hwide : 2 < column.2) (hroom : cellWidth cell.text + 2 ≤ column.2) (heven : cell.IsEven)
    (hkeeps : cell.text.KeepsLines) : ShowsAt place cell.text (rowParts .upper columns cells) := by
  have hshown := framed_shownCell hleft hwide hroom heven hkeeps
  refine ⟨?_, fun i parts hparts => ⟨_, getElem?_rowParts hcolumn hcell hparts, ?_⟩⟩
  · rw [hshown.length_eq]
    exact length_shownCell_le .upper hcolumn hcell
  · by_cases hi : i < (Text.splitAt '\n' cell.text).length
    · have hi' := hshown.length_eq ▸ hi
      rw [List.getElem?_eq_getElem hi, List.getElem?_eq_getElem hi']
      exact hshown.get hi hi'
    · have hi' := hshown.length_eq ▸ hi
      rw [List.getElem?_eq_none (Nat.le_of_not_lt hi), List.getElem?_eq_none (Nat.le_of_not_lt hi')]
      obtain ⟨n, hn⟩ : ∃ n, column.2 = n + 2 := ⟨column.2 - 2, by omega⟩
      refine ⟨n, ?_⟩
      rw [Option.getD_none, hn, Text.blanks, List.replicate_succ, List.replicate_succ']
      rfl

theorem mem_splitAt_of_mem {t : Text} {c : CodePoint} (h : c ∈ t) (hc : c ≠ .scalar '\n') :
    ∃ line ∈ Text.splitAt '\n' t, c ∈ line := by
  induction t with
  | nil => cases h
  | cons d rest ih =>
      obtain ⟨line, lines, hlines⟩ := List.exists_cons_of_ne_nil (Text.splitAt_ne_nil '\n' rest)
      by_cases hd : d = .scalar '\n'
      · obtain ⟨line, hline, hc⟩ := ih ((List.mem_cons.mp h).resolve_left fun heq => hc (heq ▸ hd))
        rw [Text.splitAt, if_pos hd]
        exact ⟨line, List.mem_cons_of_mem _ hline, hc⟩
      · rw [Text.splitAt_cons_of_ne hd, hlines, List.modifyHead_cons]
        rcases List.mem_cons.mp h with rfl | h
        · exact ⟨_, List.mem_cons_self, List.mem_cons_self⟩
        · obtain ⟨found, hfound, hc⟩ := ih h
          rw [hlines, List.mem_cons] at hfound
          rcases hfound with rfl | hfound
          · exact ⟨_, List.mem_cons_self, List.mem_cons_of_mem d hc⟩
          · exact ⟨found, List.mem_cons_of_mem _ hfound, hc⟩

theorem mem_join_of_mem (separator : Text) {ts : List Text} {t : Text} (ht : t ∈ ts)
    {c : CodePoint} (hc : c ∈ t) : c ∈ Text.join separator ts := by
  induction ts with
  | nil => cases ht
  | cons u ts ih =>
      cases ts with
      | nil =>
          rw [Text.join, List.intercalate_singleton, ← List.mem_singleton.mp ht]
          exact hc
      | cons v ts =>
          rw [Text.join, List.intercalate_cons_cons, List.mem_append]
          rcases List.mem_cons.mp ht with rfl | ht
          · exact Or.inl (List.mem_append_left _ hc)
          · exact Or.inr (ih ht)

/-- What a row shows is in one of its lines. -/
theorem ShowsAt.exists_mem {place : Nat} {t : Text} {row : List (List Text)}
    (h : ShowsAt place t row) (bar : Text) {c : CodePoint} (hmem : c ∈ t)
    (hc : c ≠ .scalar '\n') : ∃ parts ∈ row, c ∈ barred bar parts := by
  obtain ⟨line, hline, hmem⟩ := mem_splitAt_of_mem hmem hc
  obtain ⟨i, hi, rfl⟩ := List.getElem_of_mem hline
  have hrow := Nat.lt_of_lt_of_le hi h.1
  obtain ⟨shown, hshown, n, rfl⟩ := h.2 i _ (List.getElem?_eq_getElem hrow)
  refine ⟨row[i], List.getElem_mem hrow, ?_⟩
  rw [List.getElem?_eq_getElem hi, Option.getD_some] at hshown
  have hpart := mem_join_of_mem bar (List.mem_of_getElem? hshown) (c := c) (by simp [hmem])
  exact List.mem_append_left _ (List.mem_append_right _ hpart)

/-! ## Tables -/

theorem le_totalWidth {widths : List Nat} {width : Nat} (h : width ∈ widths) :
    width ≤ totalWidth widths := by
  induction widths with
  | nil => cases h
  | cons first widths ih =>
      rw [totalWidth]
      rcases List.mem_cons.mp h with rfl | h
      · omega
      · have := ih h
        omega

/-- The columns that a table takes if none of its own has to be narrow. -/
def fullWidth (t : Table) : Nat :=
  totalWidth t.fullWidths + t.columns.length + 1

/-- A table that fits the console has columns of their full width. -/
theorem widths_eq {console : Console} {t : Table} (hfits : t.fullWidth ≤ console.columns) :
    t.widths console = t.fullWidths := by
  have h : totalWidth t.fullWidths ≤ t.room console := by
    unfold fullWidth at hfits
    unfold room
    omega
  have hmin : t.fullWidths.map (min (t.room console)) = t.fullWidths := by
    refine (List.map_congr_left fun width hwidth => ?_).trans (List.map_id _)
    exact Nat.min_eq_right (Nat.le_trans (le_totalWidth hwidth) h)
  rw [widths, hmin, narrow, if_pos h]

section

variable {t : Table} {place width : Nat} (hwidth : t.fullWidths[place]? = some width)

include hwidth

theorem cellWidth_le_fullWidths {row : List StyledText} (hrow : row ∈ t.rows) {cell : StyledText}
    (hcell : row[place]? = some cell) : cellWidth cell.text + 2 ≤ width := by
  rw [fullWidths, List.getElem?_map] at hwidth
  obtain ⟨pair, hpair, rfl⟩ := Option.map_eq_some_iff.mp hwidth
  rw [List.getElem?_zipIdx, Nat.zero_add] at hpair
  obtain ⟨column, hcolumn, rfl⟩ := Option.map_eq_some_iff.mp hpair
  refine Nat.add_le_add_right (le_foldl_max (Or.inr (List.mem_map.mpr ⟨row, hrow, ?_⟩))) 2
  rw [hcell]
  rfl

theorem titleWidth_le_fullWidths {column : Column} (hcolumn : t.columns[place]? = some column) :
    cellWidth column.title + 2 ≤ width := by
  rw [fullWidths, List.getElem?_map, List.getElem?_zipIdx, hcolumn] at hwidth
  cases hwidth
  exact Nat.add_le_add_right (le_foldl_max (Or.inl (Nat.le_refl _))) 2

end

/-- A table without lone halves. -/
structure IsWhole (t : Table) : Prop where
  title : t.title.IsWhole
  columns : ∀ column ∈ t.columns, column.title.IsWhole
  cells : ∀ row ∈ t.rows, ∀ cell ∈ row, cell.text.IsWhole

theorem isWhole_horizontal {strokes : Strokes}
    (h : (strokes.left ++ strokes.stroke ++ strokes.crossing ++ strokes.right).IsWhole)
    (widths : List Nat) : (horizontal strokes widths).IsWhole := by
  simp only [Text.isWhole_append] at h
  obtain ⟨⟨⟨hleft, hstroke⟩, hcrossing⟩, hright⟩ := h
  refine Text.isWhole_append.mpr
    ⟨Text.isWhole_append.mpr ⟨hleft, isWhole_join hcrossing ?_⟩, hright⟩
  refine List.forall_mem_map.mpr fun width _ c hc => ?_
  obtain ⟨copy, hcopy, hc⟩ := List.mem_flatten.mp hc
  exact hstroke c (List.eq_of_mem_replicate hcopy ▸ hc)

theorem isWhole_centred {t : Text} (h : t.IsWhole) (width : Nat) : (centred width t).IsWhole :=
  Text.isWhole_append.mpr ⟨Text.isWhole_append.mpr ⟨isWhole_blanks _, h⟩, isWhole_blanks _⟩

/-- The columns of a table with their widths. -/
def layout (console : Console) (t : Table) : List (Column × Nat) :=
  t.columns.zip (t.widths console)

/-- The lines above the rows of a table. -/
def headLines (console : Console) (t : Table) : List Text :=
  let top := horizontal ⟨"┏", "━", "┳", "┓"⟩ (t.widths console)
  let titles : List StyledText := t.columns.map fun column => { text := column.title }
  [centred top.length t.title, top]
    ++ (rowParts .lower (t.layout console) titles).map (barred "┃")
    ++ [horizontal ⟨"┡", "━", "╇", "┩"⟩ (t.widths console)]

/-- The lines of the rows of a table. -/
def bodyLines (console : Console) (t : Table) : List Text :=
  (t.rows.flatMap (rowParts .upper (t.layout console))).map (barred "│")

/-- The lines below the rows of a table. -/
def footLines (console : Console) (t : Table) : List Text :=
  [horizontal ⟨"└", "─", "┴", "┘"⟩ (t.widths console)]

/-- A table whose styles can be read has lines, with its rows one after another. -/
theorem lines_eq (console : Console) {t : Table}
    (h : ∀ row ∈ t.rows, ∀ cell ∈ row, cell.IsReadable) :
    t.lines console
      = .ok (t.headLines console ++ t.bodyLines console ++ t.footLines console) := by
  have hheader : rowLines "┃" .lower (t.layout console)
      (t.columns.map fun column => { text := column.title }) = .ok _ :=
    rowLines_eq _ _ _ fun cell hcell => by
      obtain ⟨column, -, rfl⟩ := List.mem_map.mp hcell
      exact List.forall_mem_nil _
  have hrows : t.rows.mapM (rowLines "│" .upper (t.layout console)) = .ok _ :=
    mapM_eq_ok fun row hrow => rowLines_eq "│" .upper _ (h row hrow)
  rw [layout] at hheader hrows
  unfold lines bodyLines
  simp only [hheader, hrows]
  rw [List.map_flatMap, List.flatMap_def]
  rfl

/-- The lines of a table have no lone halves that the table has not. -/
theorem isWhole_lines (console : Console) {t : Table} (h : t.IsWhole) :
    ∀ line ∈ t.headLines console ++ t.bodyLines console ++ t.footLines console, line.IsWhole := by
  have hheader : ∀ line ∈ (rowParts .lower (t.layout console)
      (t.columns.map fun column => { text := column.title })).map (barred "┃"), line.IsWhole :=
    isWhole_barred_rowParts (by decide) .lower _
      (List.forall_mem_map.mpr fun column hcolumn => h.columns column hcolumn)
  have hbody : ∀ line ∈ t.bodyLines console, line.IsWhole := by
    rw [bodyLines, List.map_flatMap]
    refine List.forall_mem_flatMap.mpr fun row hrow => ?_
    exact isWhole_barred_rowParts (by decide) .upper _ (h.cells row hrow)
  simp only [headLines, footLines, List.forall_mem_append, List.forall_mem_cons]
  exact ⟨⟨⟨⟨⟨isWhole_centred h.title _, isWhole_horizontal (by decide) _, List.forall_mem_nil _⟩,
    hheader⟩, isWhole_horizontal (by decide) _, List.forall_mem_nil _⟩, hbody⟩,
    isWhole_horizontal (by decide) _, List.forall_mem_nil _⟩

end Table

end SecurityRules
