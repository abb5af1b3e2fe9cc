import SecurityRules.Console.Basic
import SecurityRules.Console.Wrap

/-!
# Tables

A table on the console: a centred title, a header in heavy lines, and rows in
light ones. A column is as wide as its widest cell with a blank on both sides.
If that is more than the console has room for, the widest columns are narrowed
until the table fits. A cell may have several lines; a row is as high as its
highest cell, and the header stands at the lower edge of its row.

A cell can turn out wider than its column, because the column was narrowed, or
because some characters end a line where it is measured and not where it is
shown. Its lines are then wrapped.
-/

namespace SecurityRules

structure Column where
  title : Text
  alignment : Alignment := .left

/-- A table with its cells, row by row. -/
structure Table where
  title : Text
  columns : List Column
  rows : List (List StyledText)

/-- The strokes of a horizontal line: its left end, stroke, crossing and right end. -/
structure Strokes where
  left : Text
  stroke : Text
  crossing : Text
  right : Text

/-- The edge of a row at which its cells stand. -/
inductive Edge where
  | upper
  | lower

/-! ## Widths -/

/-- A share of one in `count`, rounded to the nearest whole number and, between
two of them, to the even one. -/
def roundedShare (amount count : Nat) : Nat :=
  let down := amount / count
  let rest := 2 * (amount % count)
  if rest < count || (rest = count && down % 2 = 0) then down else down + 1

def totalWidth : List Nat → Nat
  | [] => 0
  | w :: widths => w + totalWidth widths

/-- Takes an excess off the widths that are equal to `widest`, of which there are
`count`. No width loses more than `most`. -/
def takeOff (widest most excess count : Nat) : List Nat → List Nat
  | [] => []
  | w :: widths =>
      if w = widest then
        let share := min most (roundedShare excess count)
        (w - share) :: takeOff widest most (excess - share) (count - 1) widths
      else w :: takeOff widest most excess count widths

/-- Takes an excess off the widest columns, down to the next widest at most. -/
def narrowWidest (excess : Nat) (widths : List Nat) : List Nat :=
  let widest := widths.foldl max 0
  let next := (widths.filter (· ≠ widest)).foldl max 0
  takeOff widest (min excess (widest - next)) excess (widths.count widest) widths

theorem le_foldl_max {widths : List Nat} {first n : Nat} (h : n ≤ first ∨ n ∈ widths) :
    n ≤ widths.foldl max first := by
  induction widths generalizing first with
  | nil => exact h.resolve_right (List.not_mem_nil)
  | cons width widths ih =>
      refine ih ?_
      rw [List.mem_cons] at h
      rcases h with hfirst | rfl | hmem
      · exact Or.inl (Nat.le_trans hfirst (Nat.le_max_left _ _))
      · exact Or.inl (Nat.le_max_right _ _)
      · exact Or.inr hmem

theorem foldl_max_mem (widths : List Nat) (first : Nat) :
    widths.foldl max first = first ∨ widths.foldl max first ∈ widths := by
  induction widths generalizing first with
  | nil => exact Or.inl rfl
  | cons w widths ih =>
      rw [List.foldl_cons, List.mem_cons]
      rcases ih (max first w) with h | h
      · rw [h]
        omega
      · exact Or.inr (Or.inr h)

theorem totalWidth_takeOff_le (widest most excess count : Nat) (widths : List Nat) :
    totalWidth (takeOff widest most excess count widths) ≤ totalWidth widths := by
  induction widths generalizing excess count with
  | nil => exact Nat.le_refl 0
  | cons w widths ih =>
      rw [takeOff]
      split
      · exact Nat.add_le_add (Nat.sub_le _ _) (ih _ _)
      · exact Nat.add_le_add_left (ih _ _) _

/-- The last of the widest columns has to take what is left of the excess. -/
theorem totalWidth_takeOff_lt {widest most excess : Nat} (hwidest : 0 < widest) (hmost : 0 < most)
    (hexcess : 0 < excess) {widths : List Nat} (hmem : widest ∈ widths) :
    totalWidth (takeOff widest most excess (widths.count widest) widths) < totalWidth widths := by
  induction widths with
  | nil => cases hmem
  | cons w widths ih =>
      rw [takeOff, totalWidth]
      split
      · next hw =>
          subst hw
          have hrest := totalWidth_takeOff_le w most
            (excess - min most (roundedShare excess ((w :: widths).count w)))
            ((w :: widths).count w - 1) widths
          by_cases hshare : min most (roundedShare excess ((w :: widths).count w)) = 0
          · -- a share can only be nothing if another column is as wide
            have hcount : (w :: widths).count w = widths.count w + 1 := List.count_cons_self
            have hmore : w ∈ widths := by
              refine List.count_pos_iff.mp (Nat.pos_of_ne_zero fun hzero => ?_)
              have hone : roundedShare excess 1 = excess := by simp [roundedShare, Nat.mod_one]
              rw [hcount, hzero, hone] at hshare
              omega
            simp only [hshare, Nat.sub_zero, totalWidth]
            rw [hcount, Nat.add_sub_cancel]
            exact Nat.add_lt_add_left (ih hmore) w
          · simp only [totalWidth]
            omega
      · next hw =>
          rw [List.mem_cons] at hmem
          rw [List.count_cons_of_ne hw, totalWidth]
          exact Nat.add_lt_add_left (ih (hmem.resolve_left (Ne.symm hw))) w

theorem totalWidth_narrowWidest_lt {excess : Nat} (hexcess : 0 < excess) {widths : List Nat}
    (h : 0 < totalWidth widths) : totalWidth (narrowWidest excess widths) < totalWidth widths := by
  have hwidest : 0 < widths.foldl max 0 := by
    refine Nat.pos_of_ne_zero fun hzero => ?_
    have hzeros : ∀ w ∈ widths, w = 0 := fun w hw =>
      Nat.le_zero.mp (hzero ▸ le_foldl_max (Or.inr hw))
    have hnone : totalWidth widths = 0 := by
      clear h hzero
      induction widths with
      | nil => rfl
      | cons w widths ih =>
          rw [totalWidth, hzeros w List.mem_cons_self,
            ih fun w hw => hzeros w (List.mem_cons_of_mem _ hw)]
    omega
  have hmem : widths.foldl max 0 ∈ widths :=
    (foldl_max_mem widths 0).resolve_left (Nat.ne_of_gt hwidest)
  have hnext : (widths.filter (· ≠ widths.foldl max 0)).foldl max 0 < widths.foldl max 0 := by
    rcases foldl_max_mem (widths.filter (· ≠ widths.foldl max 0)) 0 with hzero | hnext
    · omega
    · obtain ⟨hnext, hne⟩ := List.mem_filter.mp hnext
      exact Nat.lt_of_le_of_ne (le_foldl_max (Or.inr hnext)) (of_decide_eq_true hne)
  exact totalWidth_takeOff_lt hwidest (by omega) hexcess hmem

/-- Narrows the widest columns until there is room for all. -/
def narrow (room : Nat) (widths : List Nat) : List Nat :=
  if totalWidth widths ≤ room then widths
  else narrow room (narrowWidest (totalWidth widths - room) widths)
termination_by totalWidth widths
decreasing_by exact totalWidth_narrowWidest_lt (by omega) (by omega)

namespace Table

/-- The width of the widest line of a cell. -/
def cellWidth (cell : Text) : Nat :=
  (cell.brokenLines.map Text.width).foldl max 0

/-- The widths of the columns with the blanks around their cells, if none of them
had to be narrow. -/
def fullWidths (t : Table) : List Nat :=
  t.columns.zipIdx.map fun (column, i) =>
    let cells := t.rows.map fun row => cellWidth ((row[i]?.map StyledText.text).getD [])
    cells.foldl max (cellWidth column.title) + 2

/-- The columns of a console that the strokes of a table leave. -/
def room (console : Console) (t : Table) : Nat :=
  console.columns - (t.columns.length + 1)

/-- The widths of the columns on a console. -/
def widths (console : Console) (t : Table) : List Nat :=
  narrow (t.room console) (t.fullWidths.map (min (t.room console)))

/-! ## Lines -/

/-- A horizontal line. -/
def horizontal (strokes : Strokes) (widths : List Nat) : Text :=
  strokes.left ++ Text.join strokes.crossing (widths.map fun w => Text.times w strokes.stroke)
    ++ strokes.right

/-- A line of a cell with a blank on both sides. -/
def cellLine (width : Nat) (line : StyledText) : Text :=
  let blank := Text.blanks 1
  (fitSegments width (blank :: fitSegments (width - 2) line.segments ++ [blank])).flatten

/-- The lines of a cell in its column. There are none where there is room for the
blanks only. -/
def cellLines (column : Column × Nat) (cell : StyledText) : Except IntegerFault (List Text) :=
  let (column, width) := column
  if width ≤ 2 then .ok []
  else
    let lines := cell.wrap .ellipsis (some column.alignment) (width - 2)
    match lines.findSome? StyledText.styleFault? with
    | some fault => .error fault
    | none => .ok (lines.map (cellLine width))

/-- A line of a row of a given height, for the cell with the given lines. -/
def lineAt? (edge : Edge) (height i : Nat) (lines : List Text) : Option Text :=
  match edge with
  | .upper => lines[i]?
  | .lower => if i + lines.length < height then none else lines[i + lines.length - height]?

/-- The lines of a row between vertical strokes. -/
def rowLines (bar : Text) (edge : Edge) (columns : List (Column × Nat)) (cells : List StyledText) :
    Except IntegerFault (List Text) := do
  let shown ← (columns.zip cells).mapM fun (column, cell) => cellLines column cell
  let height := (shown.map List.length).foldl max 1
  return (List.range height).map fun i =>
    let parts := (columns.zip shown).map fun ((_, width), lines) =>
      (lineAt? edge height i lines).getD (Text.blanks width)
    bar ++ Text.join bar parts ++ bar

/-- A text in the middle of a width. -/
def centred (width : Nat) (t : Text) : Text :=
  let room := width - t.width
  Text.blanks (room / 2) ++ t ++ Text.blanks (room - room / 2)

/-- The lines of a table. There are none if a number in the style of a cell
cannot be read. -/
def lines (console : Console) (t : Table) : Except IntegerFault (List Text) := do
  let widths := t.widths console
  let columns := t.columns.zip widths
  let top := horizontal ⟨"┏", "━", "┳", "┓"⟩ widths
  let header ← rowLines "┃" .lower columns (t.columns.map fun column => { text := column.title })
  let rows ← t.rows.mapM (rowLines "│" .upper columns)
  return [centred top.length t.title, top] ++ header
    ++ [horizontal ⟨"┡", "━", "╇", "┩"⟩ widths] ++ rows.flatten
    ++ [horizontal ⟨"└", "─", "┴", "┘"⟩ widths]

end Table

end SecurityRules
