import SecurityRules.Text.Blank
import SecurityRules.Text.LowerCase
import SecurityRules.Text.Utf8

/-!
# Consoles

Text that is meant for a reader goes to a console. Consoles differ in how many
columns they have, in which names they show as pictures, and in whether they
can take lone surrogate halves, as one in memory can and a terminal cannot.

Before anything is laid out, a name between colons that stands for a picture is
replaced by it, and the control characters that would move the cursor are
dropped.
-/

namespace SecurityRules

/-- Where text is printed. -/
structure Console where
  columns : Nat := 20000
  /-- With fewer columns there is no room for the cells of a list. -/
  wide : 13 ≤ columns := by decide
  /-- The picture that a name in lower case stands for. -/
  picture? : Text → Option (List Char) := fun _ => none
  takesHalves : Bool := true

/-- The name that ends at the next colon. There is no blank in it. -/
def Text.upToColon? : Text → Option Text
  | [] => none
  | c :: rest =>
      if c = .scalar ':' then some []
      else if c.isBlank then none
      else (upToColon? rest).map (c :: ·)

/-- The control characters that are dropped: bell, backspace, and the breaks
that are no line feed. -/
def droppedRanges : List (Nat × Nat) :=
  [(0x07, 0x08), (0x0B, 0x0D)]

namespace Console

/-- What a name between colons is replaced by. It may end in a word that says
whether the picture is shown as a picture or as text. -/
def replacement? (console : Console) (name : Text) : Option Text :=
  let shown (name : Text) (selector : Text) : Option Text :=
    (console.picture? name.lower).map fun picture => Text.ofChars picture ++ selector
  match Text.before? "-emoji" name, Text.before? "-text" name with
  | some name, _ => shown name "\uFE0F"
  | none, some name => shown name "\uFE0E"
  | none, none => shown name []

/-- A text with its pictures. The next `skip` code points belong to a name that
is already taken, whether or not it stands for a picture. -/
def withPictures (console : Console) (skip : Nat) : Text → Text
  | [] => []
  | c :: rest =>
      match skip with
      | skip + 1 => console.withPictures skip rest
      | 0 =>
          match (if c = .scalar ':' then Text.upToColon? rest else none) with
          | some name =>
              (console.replacement? name).getD (.scalar ':' :: name ++ [.scalar ':'])
                ++ console.withPictures (name.length + 1) rest
          | none => c :: console.withPictures 0 rest

/-- A text as it is laid out. -/
def clean (console : Console) (t : Text) : Text :=
  (console.withPictures 0 t).filter (!·.within droppedRanges)

/-- The lone halves of a text that a console cannot take. -/
def refused? (console : Console) (t : Text) : Option Utf8.LoneHalves :=
  if console.takesHalves then none
  else
    match Utf8.encode t with
    | .ok _ => none
    | .error halves => some halves

end Console

end SecurityRules
