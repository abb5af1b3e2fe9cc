import SecurityRules.Text.CodePoint

/-!
# Records

Keyed entries in the order in which their keys first came. Giving a key a new
value keeps its place, so a record read from a document that repeats a key has
the first place and the last value.
-/

namespace SecurityRules

/-- Keyed entries in order. -/
abbrev Record (α : Type) := List (Text × α)

namespace Record

variable {α : Type}

def get? (key : Text) : Record α → Option α
  | [] => none
  | (k, value) :: rest => if k = key then some value else get? key rest

def keys (r : Record α) : List Text :=
  r.map (·.1)

def has (key : Text) (r : Record α) : Bool :=
  (r.get? key).isSome

/-- Gives a key a value: in its place if the record has the key, else at the end. -/
def insert (key : Text) (value : α) : Record α → Record α
  | [] => [(key, value)]
  | (k, old) :: rest =>
      if k = key then (k, value) :: rest else (k, old) :: insert key value rest

def erase (key : Text) : Record α → Record α
  | [] => []
  | (k, value) :: rest => if k = key then rest else (k, value) :: erase key rest

/-- Applies a function to the value of a key, if the record has it. -/
def adjust (key : Text) (f : α → α) : Record α → Record α
  | [] => []
  | (k, value) :: rest =>
      if k = key then (k, f value) :: rest else (k, value) :: adjust key f rest

end Record

end SecurityRules
