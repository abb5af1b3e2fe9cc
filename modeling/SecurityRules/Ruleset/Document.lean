import SecurityRules.Ruleset.Access
import SecurityRules.Ruleset.Validator

/-!
# Rules documents

A rules document has a fixed order: the opening, the function that compares an
owner with the caller, a validation function for each model, an access block
for each model, and the closing braces. Tabs indent it; another unit can take
their place afterwards.
-/

namespace SecurityRules

def openingLines : List Line :=
  [⟨0, "rules_version = '2'"⟩, ⟨0, "service cloud.firestore \x7b"⟩,
   ⟨1, "match /databases/\x7bdatabase\x7d/documents \x7b"⟩]

/-- The function that compares an owner with the caller. -/
def ownershipLines : List Line :=
  functionLines ownershipFunction "ownerId" ["request.auth.uid == ownerId"]

def closingLines : List Line :=
  [⟨1, "\x7d"⟩, ⟨0, "\x7d"⟩]

/-- A document with the given functions and blocks. -/
def frame (functions blocks : List (List Line)) : List Line :=
  openingLines ++ ownershipLines ++ functions.flatten ++ blocks.flatten ++ closingLines

/-- The lines of the document for a schema. -/
def Schema.documentLines (s : Schema) : List Line :=
  frame (s.map Model.validatorLines) (s.map Model.accessLines)

/-- The rules document for a schema. -/
def Schema.compile (s : Schema) : Text :=
  linesText tab s.documentLines

/-- A document with a unit of indentation in place of each tab. -/
def expandIndent (unit document : Text) : Text :=
  document.flatMap fun c => if c = .scalar '\t' then unit else [c]

/-- The unit of indentation when nothing else is asked for. -/
def defaultIndent : Text := "  "

end SecurityRules
