import SecurityRules.Text.CodePoint

/-!
# Check reports

What a check of a schema found. References to models that do not exist and
models that share a validation function are errors; everything else is a
warning.
-/

namespace SecurityRules

/-- A field whose type names no model. -/
structure DanglingReference where
  model : Text
  field : Text
  target : Text
  message : Text := []
  deriving DecidableEq, Repr

/-- A rule that no clause comes from, because its kind is not known. -/
structure IgnoredRule where
  model : Text
  field : Text
  kind : Text
  deriving DecidableEq, Repr

/-- What a check found. `ownerless` are the models whose update or delete is
guarded without a usable owner field, and `empty` those without clauses. -/
structure Report where
  valid : Bool
  dangling : List DanglingReference := []
  duplicates : List Text := []
  ownerless : List Text := []
  ignored : List IgnoredRule := []
  empty : List Text := []
  deriving DecidableEq, Repr

namespace Report

def errorCount (r : Report) : Nat :=
  r.dangling.length + r.duplicates.length

def warningCount (r : Report) : Nat :=
  r.ownerless.length + r.ignored.length + r.empty.length

/-- Lines that stand only if there is something to say. -/
def paragraph (present : Bool) (lines : List Text) : List Text :=
  if present then lines else []

/-- The report for a reader, without a line break at its end. -/
def text (r : Report) : Text :=
  if r.valid && r.warningCount == 0 then "Schema OK"
  else
    let headline : Text :=
      if r.valid then "Schema OK (with warnings):" else "Schema check failed:"
    let dangling := paragraph (!r.dangling.isEmpty)
      (("\n  Dangling references (" ++ Text.ofNat r.dangling.length ++ "):")
        :: r.dangling.map fun d => "    - " ++ d.model ++ "." ++ d.field ++ " -> " ++ d.target)
    let duplicates := paragraph (!r.duplicates.isEmpty)
      (("\n  Duplicate model names (" ++ Text.ofNat r.duplicates.length ++ "):")
        :: r.duplicates.map fun name => "    - " ++ name)
    let ownerless := paragraph (!r.ownerless.isEmpty)
      ["\n  No usable owner field (warning): " ++ Text.join ", " r.ownerless]
    let ignored := paragraph (!r.ignored.isEmpty)
      ("\n  Ignored constraints (warning):"
        :: r.ignored.map fun i => "    - " ++ i.model ++ "." ++ i.field ++ ": " ++ i.kind)
    let empty := paragraph (!r.empty.isEmpty)
      ["\n  Models without clauses (warning): " ++ Text.join ", " r.empty]
    Text.join "\n" (headline :: (dangling ++ duplicates ++ ownerless ++ ignored ++ empty))

end Report

end SecurityRules
