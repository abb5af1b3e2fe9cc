import SecurityRules.Console.Markup
import SecurityRules.Console.Table
import SecurityRules.Ruleset.Name
import SecurityRules.Schema.Basic

/-!
# The list of models

A table with a row for each model: its validation function, who may do what,
its owner field, and how many fields it has. Cells are marked up; the names of
functions and owner fields are not escaped, so a tag in them is taken for one.
-/

namespace SecurityRules

/-- The cell of a flag. -/
def flagCell (required : Bool) : Text :=
  if required then "[bold]auth[/bold]" else "[dim]public[/dim]"

/-- The columns of the list, each with its cell for a model. -/
def listingColumns : List (Column × (Model → Text)) :=
  let flag (title : String) (required : Model → Bool) : Column × (Model → Text) :=
    (⟨title, .left⟩, fun m => flagCell (required m))
  [(⟨"Model", .left⟩, fun m => "[bold cyan]" ++ Markup.escape m.name ++ "[/bold cyan]"),
   (⟨"Validator", .left⟩, fun m => validatorName m.name),
   flag "Read" Model.readAll,
   (⟨"Get", .left⟩, fun m => (m.readOne.map flagCell).getD "-"),
   flag "Create" Model.create,
   flag "Update" Model.update,
   flag "Delete" Model.delete,
   (⟨"Owner", .left⟩, fun m => m.effectiveOwner.getD "-"),
   (⟨"Fields", .right⟩, fun m => Text.ofNat m.fields.length)]

/-- The list of the models of a schema. Columns are read one after another, so
the first fault is that of the first column that has one. -/
def Schema.listing (console : Console) (s : Schema) : Except Markup.Fault Table := do
  let cells ← listingColumns.mapM fun (_, cell) =>
    s.mapM fun m => Markup.render console (cell m)
  return { title := "Models"
           columns := listingColumns.map (·.1)
           rows := (List.range s.length).map fun i => cells.map fun column =>
             column[i]?.getD { text := [] } }

end SecurityRules
