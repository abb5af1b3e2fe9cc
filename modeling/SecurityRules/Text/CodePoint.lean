/-!
# Text as code points

Names and patterns are read from JSON, and a JSON escape can spell one half of
a surrogate pair on its own. Such a half is no character, yet it has to survive
being read and written again. So a text is a list of code points, and a code
point is a character or a lone half.
-/

namespace SecurityRules

/-- A Unicode character, or one half of a surrogate pair standing alone. Halves
are counted from the first of them, U+D800. -/
inductive CodePoint where
  | scalar (c : Char)
  | surrogate (half : Fin 0x800)
  deriving DecidableEq, Repr, Inhabited

namespace CodePoint

/-- The number that the Unicode tables file a code point under. -/
def toNat : CodePoint → Nat
  | scalar c => c.toNat
  | surrogate half => 0xD800 + half.val

/-- The code point with a given number. A number past the last code point has
none, and gives the replacement character. -/
def ofNat (n : Nat) : CodePoint :=
  if h : n.isValidChar then .scalar (Char.ofNatAux n h)
  else if h : 0xD800 ≤ n ∧ n < 0xE000 then .surrogate ⟨n - 0xD800, by omega⟩
  else .scalar '\uFFFD'

def isSurrogate : CodePoint → Bool
  | scalar _ => false
  | surrogate _ => true

/-- Whether a code point lies in one of some closed ranges. -/
def within (ranges : List (Nat × Nat)) (c : CodePoint) : Bool :=
  ranges.any fun (first, last) => first ≤ c.toNat && c.toNat ≤ last

end CodePoint

/-- A text: any sequence of code points, lone surrogate halves included. -/
abbrev Text := List CodePoint

namespace Text

/-- The text made of the given characters. -/
def ofChars (cs : List Char) : Text :=
  cs.map .scalar

def ofString (s : String) : Text :=
  ofChars s.toList

instance : Coe String Text := ⟨ofString⟩

/-- A text as a string for display, with the replacement character in place of
each lone half. -/
def toString (t : Text) : String :=
  String.ofList (t.map fun
    | .scalar c => c
    | .surrogate _ => '\uFFFD')

/-- A natural number in decimal. -/
def ofNat (n : Nat) : Text :=
  ofChars (Nat.toDigits 10 n)

/-- An integer in decimal, with a minus sign when it is negative. -/
def ofInt (n : Int) : Text :=
  if n < 0 then .scalar '-' :: ofNat n.natAbs else ofNat n.natAbs

/-- A number in lower-case hexadecimal, padded with zeros to a least width. -/
def ofHex (width n : Nat) : Text :=
  let digits := Nat.toDigits 16 n
  ofChars (List.replicate (width - digits.length) '0' ++ digits)

/-- Texts put one after another with a separator between neighbours. -/
def join (separator : Text) (parts : List Text) : Text :=
  List.intercalate separator parts

/-- The same text, a number of times over. -/
def times (n : Nat) (t : Text) : Text :=
  (List.replicate n t).flatten

/-- What follows an opening, if the text opens with it. -/
def after? : (opening t : Text) → Option Text
  | [], t => some t
  | _ :: _, [] => none
  | c :: opening, d :: t => if c = d then after? opening t else none

theorem length_after? {opening t rest : Text} (h : opening.after? t = some rest) :
    t.length = opening.length + rest.length := by
  induction opening generalizing t with
  | nil => simp_all [after?]
  | cons c opening ih =>
      cases t with
      | nil => simp [after?] at h
      | cons d t =>
          simp only [after?] at h
          split at h
          · simp only [List.length_cons, ih h]
            omega
          · cases h

theorem eq_append_of_after? {opening t rest : Text} (h : opening.after? t = some rest) :
    t = opening ++ rest := by
  induction opening generalizing t with
  | nil =>
      cases h
      rfl
  | cons c opening ih =>
      cases t with
      | nil => cases h
      | cons d t =>
          rw [after?] at h
          split at h
          · next heq => rw [heq, ih h, List.cons_append]
          · cases h

theorem after?_append (opening rest : Text) : opening.after? (opening ++ rest) = some rest := by
  induction opening with
  | nil => rfl
  | cons c opening ih => rw [List.cons_append, after?, if_pos rfl, ih]

/-- What precedes an ending, if the text ends with it. -/
def before? (ending t : Text) : Option Text :=
  (after? ending.reverse t.reverse).map List.reverse

theorem before?_append (t ending : Text) : ending.before? (t ++ ending) = some t := by
  rw [before?, List.reverse_append, after?_append, Option.map_some, List.reverse_reverse]

theorem eq_append_of_before? {ending t before : Text} (h : ending.before? t = some before) :
    t = before ++ ending := by
  obtain ⟨rest, hrest, rfl⟩ := Option.map_eq_some_iff.mp h
  rw [← List.reverse_inj, eq_append_of_after? hrest, List.reverse_append, List.reverse_reverse]

/-- Whether a character stands somewhere in a text. -/
def holds (t : Text) (c : Char) : Bool :=
  t.contains (.scalar c)

end Text

end SecurityRules
