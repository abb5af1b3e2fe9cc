import SecurityRules.Schema.Issue

/-!
# Texts and flags in documents

Schemas and settings come in different document formats, and both are lenient
in the same way about texts and flags. A text must be a text. A flag may be
spelled as a word or a number: `yes`, `off`, `1`, `0.0` and so on.
-/

namespace SecurityRules

/-- A value of a document, as far as texts and flags are concerned. -/
inductive Scalar where
  | bool (b : Bool)
  | int (n : Int)
  | float (x : Binary64)
  | text (s : Text)
  | other

def Json.scalar : Json → Scalar
  | .bool b => .bool b
  | .int n => .int n
  | .float x => .float x
  | .string s => .text s
  | _ => .other

/-- The lower case of an ASCII letter; anything else stays. -/
def CodePoint.lowerAscii : CodePoint → CodePoint
  | .scalar c => .scalar c.toLower
  | c => c

def yesWords : List Text :=
  ["1", "t", "true", "y", "yes", "on"]

def noWords : List Text :=
  ["0", "f", "false", "n", "no", "off"]

/-- The flag that a word stands for. Case does not count. Half a surrogate pair
is part of no word. -/
def flagOfWord (s : Text) : Validated Bool :=
  let word := s.map CodePoint.lowerAscii
  if s.any CodePoint.isSurrogate then .refuse .loneHalf
  else if yesWords.contains word then .valid true
  else if noWords.contains word then .valid false
  else .refuse .unclearFlag

/-- The flag that an integer stands for. An integer that does not fit in 64
bits is not even a candidate. -/
def flagOfInt (n : Int) : Validated Bool :=
  if n = 0 then .valid false
  else if n = 1 then .valid true
  else if -0x8000000000000000 ≤ n ∧ n < 0x8000000000000000 then .refuse .unclearFlag
  else .refuse .notFlag

/-- The flag that a floating-point number stands for. One that is not an
integer strictly within 64 bits is not even a candidate. -/
def flagOfFloat (x : Binary64) : Validated Bool :=
  match x.toInt? with
  | some n => if -0x8000000000000000 < n then flagOfInt n else .refuse .notFlag
  | none => .refuse .notFlag

namespace Scalar

def toText : Scalar → Validated Text
  | text s => .valid s
  | _ => .refuse .notText

def toFlag : Scalar → Validated Bool
  | bool b => .valid b
  | int n => flagOfInt n
  | float x => flagOfFloat x
  | text s => flagOfWord s
  | other => .refuse .notFlag

end Scalar

end SecurityRules
