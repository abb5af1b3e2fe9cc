import SecurityRules.Text.CodePoint

/-!
# Runs of cased characters

Most cased characters move by a fixed distance to their other case, and
neighbours tend to move by the same distance. A case mapping is a list of such
runs.
-/

namespace SecurityRules

/-- A run of characters whose other case lies the same distance away: every
`step`-th one from `first` to `last`. -/
structure CaseRun where
  first : Nat
  last : Nat
  step : Nat
  shift : Int

namespace CaseRun

/-- Whether a run holds the character with this number. -/
def covers (run : CaseRun) (n : Nat) : Bool :=
  run.first ≤ n && n ≤ run.last && (n - run.first) % run.step = 0

/-- The number of the other case of the character with a given number. A
character in none of the runs stays. -/
def move (runs : List CaseRun) (n : Nat) : Nat :=
  match runs.find? (·.covers n) with
  | some run => (n + run.shift).toNat
  | none => n

end CaseRun

end SecurityRules
