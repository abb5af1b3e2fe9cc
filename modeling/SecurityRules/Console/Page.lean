import SecurityRules.Console.Basic
import SecurityRules.Console.Wrap

/-!
# Text on a console

A styled text is shown on as many lines as it takes. Segments are measured one
by one when they are put out, so a line can turn out too wide once more; then
its end is cut off.
-/

namespace SecurityRules.Console

/-- The lines of a styled text. -/
def lines (console : Console) (t : StyledText) : List StyledText :=
  t.wrap .fold none console.columns

/-- A line as far as there are columns for it. -/
def cropped (console : Console) (line : StyledText) : Text :=
  if console.columns < segmentsWidth line.segments then
    (cropSegments console.columns line.segments).flatten
  else line.text

/-- What is shown of a styled text. -/
def layOut (console : Console) (t : StyledText) : Text :=
  Text.ofLines ((console.lines t).map console.cropped)

/-- What is shown of a styled text, unless a number in one of its styles cannot
be read. -/
def page (console : Console) (t : StyledText) : Except IntegerFault Text :=
  match (console.lines t).findSome? StyledText.styleFault? with
  | some fault => .error fault
  | none => .ok (console.layOut t)

/-- What is shown of a text without markup. -/
def plainPage (console : Console) (t : Text) : Text :=
  console.layOut { text := console.clean t }

end SecurityRules.Console
