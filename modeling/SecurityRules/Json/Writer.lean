import SecurityRules.Decimal.Shortest
import SecurityRules.Json.Basic

/-!
# Writing JSON

A value is written in ASCII, on one line or with each item and entry on a line
of its own. Everything outside the printable ASCII characters is escaped; a
character beyond the first plane takes two escapes, one for each half of its
surrogate pair.
-/

namespace SecurityRules.Json

/-- How a document is laid out: on one line, or in lines with a unit of
indentation. -/
inductive Layout where
  | line
  | block (unit : Text)
  deriving DecidableEq, Repr

/-- The layout for an indentation by a number of spaces. Below zero means none. -/
def Layout.spaces (n : Int) : Layout :=
  .block (List.replicate n.toNat (.scalar ' '))

/-- An escape of four hexadecimal digits. -/
def unicodeEscape (n : Nat) : Text :=
  "\\u" ++ Text.ofHex 4 n

/-- A code point inside a string. -/
def escaped : CodePoint → Text
  | .scalar '"' => "\\\""
  | .scalar '\\' => "\\\\"
  | .scalar '\x08' => "\\b"
  | .scalar '\x0c' => "\\f"
  | .scalar '\n' => "\\n"
  | .scalar '\r' => "\\r"
  | .scalar '\t' => "\\t"
  | c =>
      if 0x20 ≤ c.toNat ∧ c.toNat < 0x7F then [c]
      else if c.toNat < 0x10000 then unicodeEscape c.toNat
      else
        let n := c.toNat - 0x10000
        unicodeEscape (0xD800 + n / 0x400) ++ unicodeEscape (0xDC00 + n % 0x400)

/-- A string with its quotes. -/
def writeString (s : Text) : Text :=
  [.scalar '"'] ++ s.flatMap escaped ++ [.scalar '"']

/-- A key with what divides it from its value. -/
def writeKey (key : Text) : Text :=
  writeString key ++ ": "

/-- The words for the numbers that have no digits. -/
def floatWords : FloatWords :=
  { nan := "NaN", infinity := "Infinity" }

/-- A line break at a depth; nothing when all is on one line. -/
def Layout.lineBreak (layout : Layout) (depth : Nat) : Text :=
  match layout with
  | .line => []
  | .block unit => .scalar '\n' :: Text.times depth unit

/-- What stands between two items at a depth. -/
def Layout.separator (layout : Layout) (depth : Nat) : Text :=
  match layout with
  | .line => ", "
  | .block _ => .scalar ',' :: layout.lineBreak depth

mutual

/-- A value at a depth. -/
def writeAt (layout : Layout) (depth : Nat) : Json → Text
  | .null => "null"
  | .bool true => "true"
  | .bool false => "false"
  | .int n => Text.ofInt n
  | .float x => x.text floatWords
  | .string s => writeString s
  | .array [] => "[]"
  | .array (item :: items) =>
      [.scalar '['] ++ layout.lineBreak (depth + 1) ++ writeAt layout (depth + 1) item
        ++ writeItems layout (depth + 1) items ++ layout.lineBreak depth ++ [.scalar ']']
  | .object [] => "\x7b\x7d"
  | .object ((key, value) :: entries) =>
      [.scalar '\x7b'] ++ layout.lineBreak (depth + 1)
        ++ writeKey key ++ writeAt layout (depth + 1) value
        ++ writeEntries layout (depth + 1) entries ++ layout.lineBreak depth ++ [.scalar '\x7d']

/-- The items of an array after its first. -/
def writeItems (layout : Layout) (depth : Nat) : List Json → Text
  | [] => []
  | item :: items =>
      layout.separator depth ++ writeAt layout depth item ++ writeItems layout depth items

/-- The entries of an object after its first. -/
def writeEntries (layout : Layout) (depth : Nat) : List (Text × Json) → Text
  | [] => []
  | (key, value) :: entries =>
      layout.separator depth ++ writeKey key ++ writeAt layout depth value
        ++ writeEntries layout depth entries

end

/-- The document of a value. -/
def write (layout : Layout) (v : Json) : Text :=
  writeAt layout 0 v

end SecurityRules.Json
