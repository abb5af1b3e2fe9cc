import Mathlib.Data.List.Infix
import SecurityRules.Proofs.ProgramOutputs
import SecurityRules.Proofs.TableCells

/-!
# The list of models

A list of models is a table of marked-up cells. The name of a model is escaped in
its cell, the name of its validation function and its owner field are not. So a
schema that can be loaded need not have a list: `execute_models_shows_rows` says
when it has one, and that each model then has a row with these three texts as they
are, as long as there is no tag in the two that are not escaped, nothing that the
console replaces, and room for the table.

The cells of the other columns are made by the program itself and can always be
shown (`isShowable_listingColumns`). That a cell stands in its row as it is comes
from the theory of tables.
-/

namespace SecurityRules

/-! ## Cells -/

namespace Model

/-- The cells of a model that are texts of the schema and not escaped. -/
def bareCells (m : Model) : List Text :=
  [validatorName m.name, m.effectiveOwner.getD "-"]

/-- The texts of a schema that are in the row of a model. -/
def listedTexts (m : Model) : List Text :=
  m.name :: m.bareCells

theorem exists_column_of_mem_bareCells {m : Model} {t : Text} (h : t ∈ m.bareCells) :
    ∃ column ∈ listingColumns, column.2 m = t := by
  simp only [bareCells, List.mem_cons, List.not_mem_nil, or_false] at h
  rcases h with rfl | rfl
  · exact ⟨(⟨"Validator", .left⟩, fun m => validatorName m.name), .tail _ (.head _), rfl⟩
  · exact ⟨(⟨"Owner", .left⟩, fun m => m.effectiveOwner.getD "-"),
      List.mem_of_getElem? (i := 7) rfl, rfl⟩

end Model

namespace Markup

section

variable (console : Console)

/-- A marked-up text that can be shown. -/
def IsShowable (t : Text) : Prop :=
  ∃ cell, render console t = .ok cell ∧ cell.IsReadable

theorem isShowable_untagged {t : Text} (h : hasTag t = false) : IsShowable console t :=
  ⟨_, render_untagged console h, List.forall_mem_nil _⟩

theorem isShowable_styled {style : Text} (hstyle : IsStyle style) (opening : Text) {position : Nat}
    (hopening : ∀ t, pieces (opening ++ t) = .tag 0 style :: piecesFrom position 0 0 [] t)
    (t : Text) : IsShowable console (opening ++ escape t ++ closingTag style) := by
  obtain ⟨text, hrender, -⟩ := render_styled console hstyle hopening t
  exact ⟨_, hrender, List.forall_mem_singleton.mpr hstyle.readable⟩

theorem isStyle_boldCyan : IsStyle "bold cyan" where
  normal := by decide +kernel
  trimmed := by decide
  bare := by decide
  first := rfl
  closing _ := rfl

theorem pieces_boldCyan (t : Text) :
    pieces ("[bold cyan]" ++ t) = .tag 0 "bold cyan" :: piecesFrom 11 0 0 [] t := rfl

/-- A name is rendered in one style, and as it is unless it looks like an escape or the
console has something to replace in it. -/
theorem render_name (name : Text) :
    ∃ text, render console ("[bold cyan]" ++ escape name ++ "[/bold cyan]")
        = .ok { text, spans := [⟨0, text.length, "bold cyan"⟩] }
      ∧ (¬ Text.ofString "\\\\" <:+ name → ¬ Text.ofString "\\[" <:+: name →
        console.Keeps name → text = name) :=
  render_styled console isStyle_boldCyan pieces_boldCyan name

theorem isStyle_bold : IsStyle "bold" where
  normal := by decide +kernel
  trimmed := by decide
  bare := by decide
  first := rfl
  closing _ := rfl

theorem isStyle_dim : IsStyle "dim" where
  normal := by decide +kernel
  trimmed := by decide
  bare := by decide
  first := rfl
  closing _ := rfl

theorem isShowable_flagCell (required : Bool) : IsShowable console (flagCell required) := by
  cases required with
  | true => exact isShowable_styled console isStyle_bold "[bold]" (fun _ => rfl) "auth"
  | false => exact isShowable_styled console isStyle_dim "[dim]" (fun _ => rfl) "public"

theorem isShowable_ofNat (n : Nat) : IsShowable console (Text.ofNat n) := by
  refine isShowable_untagged console (hasTag_eq_false fun h => ?_)
  obtain ⟨c, hc, heq⟩ := List.mem_map.mp h
  cases heq
  exact absurd (Nat.isDigit_of_mem_toDigits (by decide) (by decide) hc) (by decide)

end

end Markup

theorem isShowable_listingColumns {console : Console} {m : Model}
    (h : ∀ t ∈ m.bareCells, Markup.IsShowable console t) :
    ∀ column ∈ listingColumns, Markup.IsShowable console (column.2 m) := by
  simp only [Model.bareCells, List.forall_mem_cons] at h
  have hflag := Markup.isShowable_flagCell console
  simp only [listingColumns, List.forall_mem_cons]
  refine ⟨?_, h.1, hflag _, ?_, hflag _, hflag _, hflag _, h.2.1,
    Markup.isShowable_ofNat console _, List.forall_mem_nil _⟩
  · exact Markup.isShowable_styled console Markup.isStyle_boldCyan _ Markup.pieces_boldCyan m.name
  · cases m.readOne with
    | none => exact Markup.isShowable_untagged console rfl
    | some required => exact hflag required

/-- No cell has a lone half that the texts of the model have not. -/
theorem isWhole_listingColumns {m : Model} (h : ∀ t ∈ m.listedTexts, t.IsWhole) :
    ∀ column ∈ listingColumns, (column.2 m).IsWhole := by
  simp only [Model.listedTexts, Model.bareCells, List.forall_mem_cons] at h
  have hflag : ∀ required, (flagCell required).IsWhole := by decide
  simp only [listingColumns, List.forall_mem_cons]
  refine ⟨?_, h.2.1, hflag _, ?_, hflag _, hflag _, hflag _, h.2.2.1, Text.isWhole_ofChars _,
    List.forall_mem_nil _⟩
  · exact Text.isWhole_append.mpr
      ⟨Text.isWhole_append.mpr ⟨by decide, Markup.isWhole_escape h.1⟩, by decide⟩
  · cases m.readOne with
    | none => exact (by decide : Text.IsWhole "-")
    | some required => exact hflag required

/-! ## The table -/

/-- The cells of a model. -/
def Model.listingRow (console : Console) (m : Model) : List StyledText :=
  listingColumns.map fun column => Markup.rendered console (column.2 m)

/-- The list in which all cells are rendered. -/
def Schema.listingTable (console : Console) (s : Schema) : Table where
  title := "Models"
  columns := listingColumns.map (·.1)
  rows := s.map (·.listingRow console)

section

variable {console : Console} {s : Schema}

theorem Schema.listing_eq
    (h : ∀ m ∈ s, ∀ column ∈ listingColumns, Markup.IsShowable console (column.2 m)) :
    s.listing console = .ok (s.listingTable console) := by
  have hcells : (listingColumns.mapM fun column =>
        s.mapM fun m => Markup.render console (column.2 m))
      = .ok (listingColumns.map fun column =>
        s.map fun m => Markup.rendered console (column.2 m)) := by
    refine mapM_eq_ok fun column hcolumn => mapM_eq_ok fun m hm => ?_
    obtain ⟨cell, hcell, -⟩ := h m hm column hcolumn
    rw [Markup.rendered, hcell]
    rfl
  have hrows : (List.range s.length).map (fun i =>
      (listingColumns.map fun column =>
          s.map fun m => Markup.rendered console (column.2 m)).map
        fun (cells : List StyledText) => cells[i]?.getD { text := [] })
      = s.map (·.listingRow console) := by
    refine List.ext_getElem (by simp) fun i hi hi' => ?_
    have hlength : i < s.length := by simpa using hi'
    simp [Model.listingRow, hlength]
  refine (congrArg (fun cells => cells >>= _) hcells).trans ?_
  exact congrArg (fun rows => Except.ok { s.listingTable console with rows }) hrows

theorem Schema.exists_render_of_listing {table : Table} (h : s.listing console = .ok table)
    {m : Model} (hm : m ∈ s) {column : Column × (Model → Text)}
    (hcolumn : column ∈ listingColumns) :
    ∃ cell, Markup.render console (column.2 m) = .ok cell := by
  cases hcells : listingColumns.mapM fun column =>
      s.mapM fun m => Markup.render console (column.2 m) with
  | error fault =>
      have hfault : s.listing console = .error fault :=
        congrArg (fun cells => cells >>= _) hcells
      cases hfault.symm.trans h
  | ok cells =>
      obtain ⟨cells, hcells⟩ := exists_of_mapM_eq_ok hcells hcolumn
      exact exists_of_mapM_eq_ok hcells hm

theorem Markup.isWhole_rendered {t : Text} (h : t.IsWhole) : (rendered console t).text.IsWhole := by
  unfold rendered
  cases hrender : render console t with
  | error fault => exact List.forall_mem_nil _
  | ok cell => exact isWhole_render hrender h

/-! ## Rows -/

/-- The lines of the row of a model. -/
def Schema.listingParts (console : Console) (s : Schema) (m : Model) : List (List Text) :=
  Table.rowParts .upper ((s.listingTable console).layout console) (m.listingRow console)

/-- The list, if all cells can be shown. -/
def Schema.listingLines (console : Console) (s : Schema) : List Text :=
  (s.listingTable console).headLines console
    ++ (s.flatMap (s.listingParts console)).map (Table.barred "│")
    ++ (s.listingTable console).footLines console

theorem Schema.bodyLines_listing :
    (s.listingTable console).bodyLines console
      = (s.flatMap (s.listingParts console)).map (Table.barred "│") := by
  rw [Table.bodyLines, listingTable, List.flatMap_map]
  rfl

theorem Schema.lines_listing
    (h : ∀ m ∈ s, ∀ column ∈ listingColumns, Markup.IsShowable console (column.2 m)) :
    (s.listingTable console).lines console = .ok (s.listingLines console) := by
  rw [listingLines, ← bodyLines_listing]
  refine Table.lines_eq console fun row hrow cell hcell => ?_
  obtain ⟨m, hm, rfl⟩ := List.mem_map.mp hrow
  obtain ⟨column, hcolumn, rfl⟩ := List.mem_map.mp hcell
  obtain ⟨cell, hrender, hcell⟩ := h m hm column hcolumn
  rw [Markup.rendered, hrender]
  exact hcell

theorem Schema.isWhole_listingTable (h : ∀ m ∈ s, ∀ t ∈ m.listedTexts, t.IsWhole) :
    (s.listingTable console).IsWhole where
  title := (by decide : Text.IsWhole "Models")
  columns := (by decide : ∀ column ∈ listingColumns.map (·.1), column.title.IsWhole)
  cells := by
    intro row hrow cell hcell
    obtain ⟨m, hm, rfl⟩ := List.mem_map.mp hrow
    obtain ⟨column, hcolumn, rfl⟩ := List.mem_map.mp hcell
    exact Markup.isWhole_rendered (isWhole_listingColumns (h m hm) column hcolumn)

/-- No line has a lone half that the texts of the models have not. -/
theorem Schema.isWhole_listingLines (h : ∀ m ∈ s, ∀ t ∈ m.listedTexts, t.IsWhole) :
    ∀ line ∈ s.listingLines console, line.IsWhole := by
  rw [listingLines, ← bodyLines_listing]
  exact Table.isWhole_lines console (isWhole_listingTable h)

theorem cellWidth_title_pos : ∀ column ∈ listingColumns, 0 < Table.cellWidth column.1.title := by
  decide +kernel

/-- If the table has room on the console, so have the cells in their columns. -/
theorem Schema.showsAt_listing (hfits : (s.listingTable console).fullWidth ≤ console.columns)
    {m : Model} (hm : m ∈ s) {place : Nat} {column : Column × (Model → Text)}
    (hcolumn : listingColumns[place]? = some column) (hleft : column.1.alignment = .left)
    {cell : StyledText} (hcell : Markup.render console (column.2 m) = .ok cell)
    (heven : cell.IsEven) (hkeeps : cell.text.KeepsLines) :
    Table.ShowsAt place cell.text (s.listingParts console m) := by
  have hcolumns : (s.listingTable console).columns[place]? = some column.1 := by
    rw [listingTable, List.getElem?_map, hcolumn]
    rfl
  have hcells : (m.listingRow console)[place]? = some cell := by
    rw [Model.listingRow, List.getElem?_map, hcolumn, Option.map_some, Markup.rendered, hcell]
    rfl
  obtain ⟨width, hwidth⟩ : ∃ width, (s.listingTable console).fullWidths[place]? = some width := by
    rw [Table.fullWidths, List.getElem?_map, List.getElem?_zipIdx, hcolumns]
    exact ⟨_, rfl⟩
  have hlayout : ((s.listingTable console).layout console)[place]? = some (column.1, width) :=
    List.getElem?_zip_eq_some.mpr ⟨hcolumns, (Table.widths_eq hfits).symm ▸ hwidth⟩
  have htitle : 0 < Table.cellWidth column.1.title :=
    cellWidth_title_pos column (List.mem_of_getElem? hcolumn)
  have hwide := Table.titleWidth_le_fullWidths hwidth hcolumns
  have hroom := Table.cellWidth_le_fullWidths hwidth (List.mem_map_of_mem hm) hcells
  exact Table.showsAt_rowParts hlayout hcells hleft (by omega) hroom heven hkeeps

end

/-- A text that a console shows as it is if no tag is read in it. -/
structure Text.IsLiteral (console : Console) (t : Text) : Prop where
  keepsLines : t.KeepsLines
  unescaped : ¬ Text.ofString "\\[" <:+: t
  keeps : console.Keeps t

/-- The texts that the row of a model shows as they are, with their places: what it is
called, what its function is called and who owns it. Tags matter only where they are not
escaped. -/
inductive Model.ShownText (console : Console) (m : Model) : Nat → Text → Prop
  | name (hliteral : m.name.IsLiteral console) (hends : ¬ Text.ofString "\\\\" <:+ m.name) :
      ShownText console m 0 m.name
  | validator (hliteral : (validatorName m.name).IsLiteral console)
      (htag : Markup.hasTag (validatorName m.name) = false) :
      ShownText console m 1 (validatorName m.name)
  | owner (hliteral : (m.effectiveOwner.getD "-").IsLiteral console)
      (htag : Markup.hasTag (m.effectiveOwner.getD "-") = false) :
      ShownText console m 7 (m.effectiveOwner.getD "-")

theorem Markup.render_literal {console : Console} {t : Text} (hliteral : t.IsLiteral console)
    (htag : hasTag t = false) : render console t = .ok { text := t } := by
  rw [render_untagged console htag, shown_eq_self hliteral.unescaped, hliteral.keeps.clean_eq]

section

variable {console : Console} {s : Schema} {m : Model} {place : Nat} {t : Text}

theorem Schema.showsAt_of_shownText
    (hfits : (s.listingTable console).fullWidth ≤ console.columns) (hm : m ∈ s)
    (h : m.ShownText console place t) : Table.ShowsAt place t (s.listingParts console m) := by
  cases h with
  | name hliteral hends =>
      have hcolumn : listingColumns[0]? = some (⟨"Model", .left⟩,
          fun m => "[bold cyan]" ++ Markup.escape m.name ++ "[/bold cyan]") := rfl
      obtain ⟨text, hrender, htext⟩ := Markup.render_name console m.name
      rw [htext hends hliteral.unescaped hliteral.keeps] at hrender
      exact showsAt_listing hfits hm hcolumn rfl hrender
        (List.forall_mem_singleton.mpr ⟨rfl, rfl⟩) hliteral.keepsLines
  | validator hliteral htag =>
      have hcolumn : listingColumns[1]? = some (⟨"Validator", .left⟩,
          fun m => validatorName m.name) := rfl
      exact showsAt_listing hfits hm hcolumn rfl (Markup.render_literal hliteral htag)
        (List.forall_mem_nil _) hliteral.keepsLines
  | owner hliteral htag =>
      have hcolumn : listingColumns[7]? = some (⟨"Owner", .left⟩,
          fun m => m.effectiveOwner.getD "-") := rfl
      exact showsAt_listing hfits hm hcolumn rfl (Markup.render_literal hliteral htag)
        (List.forall_mem_nil _) hliteral.keepsLines

/-- A lone half that is to be shown as it is can be found in the list. -/
theorem Schema.not_isWhole_listingLines
    (hfits : (s.listingTable console).fullWidth ≤ console.columns) (hm : m ∈ s)
    (h : m.ShownText console place t) (ht : ¬ t.IsWhole) :
    ¬ ∀ line ∈ s.listingLines console, line.IsWhole := by
  intro hwhole
  refine ht fun c hc => ?_
  by_cases hfeed : c = .scalar '\n'
  · rw [hfeed]
    rfl
  · obtain ⟨parts, hparts, hmem⟩ := (showsAt_of_shownText hfits hm h).exists_mem "│" hc hfeed
    have hparts : parts ∈ s.flatMap (s.listingParts console) :=
      List.mem_flatMap.mpr ⟨m, hm, hparts⟩
    refine hwhole _ ?_ c hmem
    exact List.mem_append_left _ (List.mem_append_right _ (List.mem_map_of_mem hparts))

end

/-! ## Runs -/

/-- How a run ends that has a schema to list: with the code zero, once the list is
printed; over the lone halves in the list; or over the markup of a cell, if there is no
list. -/
inductive Lists (host : Host) (s : Schema) (run : Outcome × World) : Prop
  | shown {table : Table} {lines : List Text} (hlisting : s.listing host.console = .ok table)
      (hlines : table.lines host.console = .ok lines)
      (htaken : host.console.refused? (Text.ofLines lines) = none)
      (hcode : run.1 = .finished 0) (hprinted : run.2.printed = Text.ofLines lines)
  | refused {table : Table} {lines : List Text} {halves : Utf8.LoneHalves}
      (hlisting : s.listing host.console = .ok table)
      (hlines : table.lines host.console = .ok lines)
      (hrefused : host.console.refused? (Text.ofLines lines) = some halves)
      (hfailed : run.1 = .failed (.unwritten standardOutput (.loneHalves halves)))
      (hprinted : run.2.printed = [])
  | unlisted {fault : Markup.Fault}
      (hnone : ∀ table lines, s.listing host.console = .ok table →
        table.lines host.console ≠ .ok lines)
      (hfailed : run.1 = .failed (.markup fault)) (hprinted : run.2.printed = [])

section

variable {host : Host} {tree : FileTree} {arguments : List Text} {i : Invocation}
  {schema : Option Text} {settings : Settings} {s : Schema}

theorem execute_lists (hi : Invocation.ofArguments arguments = .ok i)
    (htask : i.task = .models schema)
    (hload : loadInput host tree i.config schema = .ok (settings, s)) :
    Lists host s (execute host tree arguments) := by
  have htrace : (i.action host).trace host tree = _ := Invocation.trace_models htask
  rw [hload] at htrace
  simp only at htrace
  cases hlisting : s.listing host.console with
  | error fault =>
      rw [hlisting] at htrace
      obtain ⟨hfailed, hprinted, -⟩ := execute_of_failed hi htrace
      refine .unlisted (fun table lines h => ?_) hfailed hprinted
      cases hlisting.symm.trans h
  | ok table =>
      rw [hlisting] at htrace
      simp only at htrace
      cases hlines : table.lines host.console with
      | error fault =>
          rw [hlines] at htrace
          obtain ⟨hfailed, hprinted, -⟩ := execute_of_failed hi htrace
          refine .unlisted (fun other lines h heq => ?_) hfailed hprinted
          cases hlisting.symm.trans h
          cases hlines.symm.trans heq
      | ok lines =>
          rw [hlines] at htrace
          simp only [Action.printed] at htrace
          cases htaken : host.console.refused? (Text.ofLines lines) with
          | none =>
              rw [htaken] at htrace
              obtain ⟨hcode, hprinted, -⟩ := execute_of_printed hi htrace
              exact .shown hlisting hlines htaken hcode hprinted
          | some halves =>
              rw [htaken] at htrace
              obtain ⟨hfailed, hprinted, -⟩ := execute_of_failed hi htrace
              exact .refused hlisting hlines htaken hfailed hprinted

end

section

variable {host : Host} {s : Schema} {run : Outcome × World} (h : Lists host s run)

include h

/-- A list is printed, or nothing is. -/
theorem Lists.ends :
    run.1 = .finished 0
      ∨ run.2.printed = []
        ∧ ((∃ fault, run.1 = .failed (.markup fault))
          ∨ host.console.takesHalves = false
            ∧ ∃ halves, run.1 = .failed (.unwritten standardOutput (.loneHalves halves))) := by
  cases h with
  | shown _ _ _ hcode _ => exact Or.inl hcode
  | unlisted _ hfailed hprinted => exact Or.inr ⟨hprinted, Or.inl ⟨_, hfailed⟩⟩
  | refused _ _ hrefused hfailed hprinted =>
      refine Or.inr ⟨hprinted, Or.inr ⟨?_, _, hfailed⟩⟩
      cases htakes : host.console.takesHalves with
      | false => rfl
      | true => cases (Console.refused?_eq_none_iff.mpr (Or.inl htakes)).symm.trans hrefused

theorem Lists.of_unrendered {m : Model} (hm : m ∈ s) {t : Text} (ht : t ∈ m.bareCells)
    {cause : Markup.Fault} (hcause : Markup.render host.console t = .error cause) :
    (∃ fault, run.1 = .failed (.markup fault)) ∧ run.2.printed = [] := by
  obtain ⟨column, hcolumn, rfl⟩ := Model.exists_column_of_mem_bareCells ht
  have hnone : ∀ table, s.listing host.console ≠ .ok table := by
    intro table hlisting
    obtain ⟨cell, hcell⟩ := Schema.exists_render_of_listing hlisting hm hcolumn
    cases hcause.symm.trans hcell
  cases h with
  | shown hlisting _ _ _ _ => exact absurd hlisting (hnone _)
  | refused hlisting _ _ _ _ => exact absurd hlisting (hnone _)
  | unlisted _ hfailed hprinted => exact ⟨⟨_, hfailed⟩, hprinted⟩

theorem Lists.of_showable
    (hshowable : ∀ m ∈ s, ∀ t ∈ m.bareCells, Markup.IsShowable host.console t) :
    (host.console.takesHalves ∨ ∀ line ∈ s.listingLines host.console, line.IsWhole)
        ∧ run.1 = .finished 0 ∧ run.2.printed = Text.ofLines (s.listingLines host.console)
      ∨ ¬ (host.console.takesHalves ∨ ∀ line ∈ s.listingLines host.console, line.IsWhole)
        ∧ (∃ halves, run.1 = .failed (.unwritten standardOutput (.loneHalves halves)))
        ∧ run.2.printed = [] := by
  have hcells := fun m hm => isShowable_listingColumns (hshowable m hm)
  have hlisting := Schema.listing_eq hcells
  have hlines := Schema.lines_listing hcells
  rw [← Text.isWhole_ofLines, ← Console.refused?_eq_none_iff]
  cases h with
  | shown hlisting' hlines' htaken hcode hprinted =>
      cases hlisting.symm.trans hlisting'
      cases hlines.symm.trans hlines'
      exact Or.inl ⟨htaken, hcode, hprinted⟩
  | refused hlisting' hlines' hrefused hfailed hprinted =>
      cases hlisting.symm.trans hlisting'
      cases hlines.symm.trans hlines'
      refine Or.inr ⟨?_, ⟨_, hfailed⟩, hprinted⟩
      rw [hrefused]
      exact Option.some_ne_none _
  | unlisted hnone _ _ => exact absurd hlines (hnone _ _ hlisting)

end

section

variable {host : Host} {tree : FileTree} {arguments : List Text} {i : Invocation}
  {schema : Option Text} {settings : Settings} {s : Schema}

/-- Where the models of a schema are listed, the program ends with zero, or it fails over
the markup of a cell or over lone halves, without a word. It fails if one of the cells that
are not escaped cannot be rendered. If they have no tag in them, or tags that can be shown,
and the console takes all halves that there are, it ends with zero and has printed a row
for each model. On a console with room for the table the row has the name of the model, the
name of its validation function and its owner field just as they are; and if the console
does not take a half in one of these, the program fails. -/
theorem execute_models_shows_rows (hi : Invocation.ofArguments arguments = .ok i)
    (htask : i.task = .models schema)
    (hload : loadInput host tree i.config schema = .ok (settings, s)) :
    let run := execute host tree arguments
    let fits := (s.listingTable host.console).fullWidth ≤ host.console.columns
    (run.1 = .finished 0
        ∨ run.2.printed = []
          ∧ ((∃ fault, run.1 = .failed (.markup fault))
            ∨ host.console.takesHalves = false
              ∧ ∃ halves, run.1 = .failed (.unwritten standardOutput (.loneHalves halves))))
      ∧ (∀ m ∈ s, ∀ t ∈ m.bareCells, ∀ cause, Markup.render host.console t = .error cause →
        (∃ fault, run.1 = .failed (.markup fault)) ∧ run.2.printed = [])
      ∧ ((∀ m ∈ s, ∀ t ∈ m.bareCells,
          Markup.hasTag t = false ∨ Markup.IsShowable host.console t) →
        ((host.console.takesHalves ∨ ∀ m ∈ s, ∀ t ∈ m.listedTexts, t.IsWhole) →
          run.1 = .finished 0
            ∧ ∃ (head foot : List Text) (row : Model → List (List Text)),
              run.2.printed = Text.ofLines (head ++ (s.flatMap row).map (Table.barred "│") ++ foot)
                ∧ (fits → ∀ m ∈ s, ∀ place t, m.ShownText host.console place t →
                  Table.ShowsAt place t (row m)))
        ∧ (host.console.takesHalves = false → fits →
          ∀ m ∈ s, ∀ place t, m.ShownText host.console place t → ¬ t.IsWhole →
            (∃ halves, run.1 = .failed (.unwritten standardOutput (.loneHalves halves)))
              ∧ run.2.printed = [])) := by
  have hlists := execute_lists hi htask hload
  refine ⟨hlists.ends, fun m hm t ht cause => hlists.of_unrendered hm ht, fun h => ?_⟩
  have hshowable : ∀ m ∈ s, ∀ t ∈ m.bareCells, Markup.IsShowable host.console t :=
    fun m hm t ht => (h m hm t ht).elim (Markup.isShowable_untagged host.console) id
  refine ⟨fun hwhole => ?_, fun htakes hfits m hm place t hshown ht => ?_⟩
  · rcases hlists.of_showable hshowable with ⟨-, hcode, hprinted⟩ | ⟨hrefused, -⟩
    · exact ⟨hcode, _, _, _, hprinted,
        fun hfits m hm place t => Schema.showsAt_of_shownText hfits hm⟩
    · exact absurd (hwhole.imp_right Schema.isWhole_listingLines) hrefused
  · have hhalf := Schema.not_isWhole_listingLines hfits hm hshown ht
    rcases hlists.of_showable hshowable with ⟨htaken, -⟩ | ⟨-, hfailed⟩
    · exact absurd (htaken.resolve_left (Bool.not_eq_true _ ▸ htakes)) hhalf
    · exact hfailed

end

/-- Models with brackets in their names, where a number in brackets is no tag and one name
is a tag that closes nothing; and a model with half a character for a name. -/
def bracketedModels : FileTree :=
  let file (t : String) : Node := .file (t.toList.map fun c => c.toNat.toUInt8)
  [(["numbered"], file "[\x7b\"name\":\"[1]\\nb\"\x7d]"),
   (["closing"], file "[\x7b\"name\":\"[/]\"\x7d]"),
   (["half"], file "[\x7b\"name\":\"\\ud800\"\x7d]")]

/-- A terminal with just enough columns for these. -/
def tightTerminal : Host where
  directory := "/"
  console := { columns := 85, takesHalves := false }

theorem loadInput_numbered :
    loadInput tightTerminal bracketedModels none (some "numbered")
      = .ok ({}, [{ name := "[1]\nb" }]) :=
  loadInput_eq_ok_iff.mpr ⟨rfl, by decide +kernel⟩

theorem loadInput_closing :
    loadInput tightTerminal bracketedModels none (some "closing") = .ok ({}, [{ name := "[/]" }]) :=
  loadInput_eq_ok_iff.mpr ⟨rfl, by decide +kernel⟩

theorem loadInput_half :
    loadInput tightTerminal bracketedModels none (some "half")
      = .ok ({}, [{ name := [.surrogate 0] }]) :=
  loadInput_eq_ok_iff.mpr ⟨rfl, by decide +kernel⟩

theorem render_validator_closing (console : Console) :
    Markup.render console (validatorName "[/]") = .error (.nothingToClose 8) := rfl

theorem isLiteral_tightTerminal {t : Text} (hkeeps : t.KeepsLines)
    (hunescaped : ¬ Text.ofString "\\[" <:+: t)
    (hcontrols : ∀ c ∈ t, c.within droppedRanges = false) : t.IsLiteral tightTerminal.console :=
  ⟨hkeeps, hunescaped, hcontrols, fun name _ => Console.replacement?_eq_none (fun _ => rfl) name⟩

/-- The number is shown, on a line of its own. The tag is not, nor is the half. -/
theorem execute_models_shows_rows_brackets :
    (execute tightTerminal bracketedModels ["models", "numbered"]).1 = .finished 0
      ∧ (∃ (head foot : List Text) (row : List (List Text)),
        (execute tightTerminal bracketedModels ["models", "numbered"]).2.printed
            = Text.ofLines (head ++ row.map (Table.barred "│") ++ foot)
          ∧ Table.ShowsAt 0 "[1]\nb" row ∧ Table.ShowsAt 1 "validate[1]\nbModel" row
          ∧ Table.ShowsAt 7 "-" row)
      ∧ ((∃ fault, (execute tightTerminal bracketedModels ["models", "closing"]).1
            = .failed (.markup fault))
        ∧ (execute tightTerminal bracketedModels ["models", "closing"]).2.printed = [])
      ∧ (∃ halves, (execute tightTerminal bracketedModels ["models", "half"]).1
          = .failed (.unwritten standardOutput (.loneHalves halves)))
      ∧ (execute tightTerminal bracketedModels ["models", "half"]).2.printed = [] := by
  have hnumbered := execute_models_shows_rows
    (rfl : Invocation.ofArguments ["models", "numbered"] = _) rfl loadInput_numbered
  have hclosing := execute_models_shows_rows
    (rfl : Invocation.ofArguments ["models", "closing"] = _) rfl loadInput_closing
  have hhalf := execute_models_shows_rows
    (rfl : Invocation.ofArguments ["models", "half"] = _) rfl loadInput_half
  have huntagged : ∀ t ∈ Model.bareCells { name := "[1]\nb" }, Markup.hasTag t = false := by decide
  have huntagged' : ∀ t ∈ Model.bareCells { name := [.surrogate 0] }, Markup.hasTag t = false := by
    decide
  obtain ⟨hfinished, head, foot, row, hprinted, hrow⟩ := (hnumbered.2.2
    (List.forall_mem_singleton.mpr fun t ht => Or.inl (huntagged t ht))).1
    (Or.inr (by decide))
  have hrow := hrow (by decide +kernel) _ List.mem_cons_self
  refine ⟨hfinished, ⟨head, foot, _, hprinted, ?_⟩,
    hclosing.2.1 _ List.mem_cons_self _ List.mem_cons_self _ (render_validator_closing _), ?_⟩
  · have hname : Model.ShownText tightTerminal.console { name := "[1]\nb" } 0 "[1]\nb" :=
      .name (isLiteral_tightTerminal (by decide) (by decide) (by decide)) (by decide)
    have hvalidator : Model.ShownText tightTerminal.console { name := "[1]\nb" } 1
        "validate[1]\nbModel" :=
      .validator (isLiteral_tightTerminal (by decide) (by decide) (by decide)) (by decide)
    have howner : Model.ShownText tightTerminal.console { name := "[1]\nb" } 7 "-" :=
      .owner (isLiteral_tightTerminal (by decide) (by decide) (by decide)) (by decide)
    rw [List.flatMap_singleton]
    exact ⟨hrow 0 _ hname, hrow 1 _ hvalidator, hrow 7 _ howner⟩
  · have hname : Model.ShownText tightTerminal.console { name := [.surrogate 0] } 0
        [.surrogate 0] :=
      .name (isLiteral_tightTerminal (by decide) (by decide) (by decide)) (by decide)
    exact (hhalf.2.2 (List.forall_mem_singleton.mpr fun t ht => Or.inl (huntagged' t ht))).2 rfl
      (by decide +kernel) _ List.mem_cons_self 0 _ hname (by decide)

/-- So a schema can be loaded and its models not be listed. -/
theorem execute_models_closing_fails :
    ∃ (host : Host) (tree : FileTree) (arguments : List Text) (i : Invocation)
      (schema : Option Text) (settings : Settings) (s : Schema),
      Invocation.ofArguments arguments = .ok i ∧ i.task = .models schema
        ∧ loadInput host tree i.config schema = .ok (settings, s)
        ∧ (execute host tree arguments).1 ≠ .finished 0 := by
  have hi : Invocation.ofArguments ["models", "closing"]
      = .ok { task := .models (some "closing") } := rfl
  refine ⟨_, _, _, _, _, _, _, hi, rfl, loadInput_closing, ?_⟩
  obtain ⟨⟨fault, hfailed⟩, -⟩ := (execute_lists hi rfl loadInput_closing).of_unrendered
    List.mem_cons_self List.mem_cons_self (render_validator_closing _)
  rw [hfailed]
  nofun

end SecurityRules
