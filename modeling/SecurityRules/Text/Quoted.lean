import SecurityRules.Text.Printable

/-!
# Quoted texts

How a text is shown inside a message: between quotes, with the quotes, the
backslashes and everything unprintable spelled out. Single quotes are used
unless the text has a single quote and no double one.
-/

namespace SecurityRules

/-- The quote that stands around a text. -/
def Text.quoteMark (t : Text) : Char :=
  if t.holds '\'' && !t.holds '"' then '"' else '\''

/-- The number of a code point in the shortest of three widths. -/
def CodePoint.numbered (c : CodePoint) : Text :=
  if c.toNat < 0x100 then "\\x" ++ Text.ofHex 2 c.toNat
  else if c.toNat < 0x10000 then "\\u" ++ Text.ofHex 4 c.toNat
  else "\\U" ++ Text.ofHex 8 c.toNat

/-- One code point between the quotes `mark`. -/
def CodePoint.quotedIn (mark : Char) (c : CodePoint) : Text :=
  if c = .scalar mark ∨ c = .scalar '\\' then [.scalar '\\', c]
  else if c = .scalar '\n' then "\\n"
  else if c = .scalar '\r' then "\\r"
  else if c = .scalar '\t' then "\\t"
  else if c.isPrintable then [c]
  else c.numbered

/-- A text in quotes. -/
def Text.quoted (t : Text) : Text :=
  let mark := t.quoteMark
  [.scalar mark] ++ t.flatMap (CodePoint.quotedIn mark) ++ [.scalar mark]

end SecurityRules
