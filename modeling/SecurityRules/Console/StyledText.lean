import SecurityRules.Console.Style
import SecurityRules.Text.Cluster
import SecurityRules.Text.LineBreak

/-!
# Styled text

A text with the stretches of it that have a style. On a terminal each change of
style starts a new segment, and segments are measured one by one: what would
join two characters of a text joins nothing across a change of style.
-/

namespace SecurityRules

/-- A stretch of a text with a style, given by the words that name it. -/
structure Span where
  start : Nat
  stop : Nat
  style : Text
  deriving DecidableEq, Repr

/-- A span without what lies from `length` on. Of a span that starts there
nothing is left. -/
def Span.take? (length : Nat) (span : Span) : Option Span :=
  if span.start < length then some { span with stop := min span.stop length } else none

/-- The part of a span inside a stretch, counted from there, unless it is empty. -/
def Span.between? (start stop : Nat) (span : Span) : Option Span :=
  let first := span.start - start
  let last := min span.stop stop - start
  if first < last then some { span with start := first, stop := last } else none

structure StyledText where
  text : Text
  spans : List Span := []
  deriving DecidableEq, Repr

namespace StyledText

/-- A stretch of a styled text. -/
def between (start stop : Nat) (t : StyledText) : StyledText :=
  { text := (t.text.drop start).take (stop - start)
    spans := t.spans.filterMap (·.between? start stop) }

/-- The parts between places, if there are any. -/
def divide (places : List Nat) (t : StyledText) : List StyledText :=
  if places.isEmpty then [t]
  else ((0 :: places).zip (places ++ [t.text.length])).map fun (start, stop) =>
    t.between start stop

/-- The stretches that have the length of the given texts, with one code point
between them. -/
def linesFrom (t : StyledText) (start : Nat) : List Text → List StyledText
  | [] => []
  | line :: rest =>
      t.between start (start + line.length) :: t.linesFrom (start + line.length + 1) rest

/-- The lines of a styled text. -/
def lines (t : StyledText) : List StyledText :=
  match t.text.splitAt '\n' with
  | [_] => [t]
  | lines => t.linesFrom 0 lines

/-- Another text in place of the text. Spans past its end go if it is shorter. -/
def withText (text : Text) (t : StyledText) : StyledText :=
  if text.length < t.text.length then
    { text, spans := t.spans.filterMap (·.take? text.length) }
  else { t with text }

/-- The places where a style starts or stops. -/
def boundaries (t : StyledText) : List Nat :=
  t.spans.flatMap fun span => [span.start, span.stop]

/-- The segments of the code points from `place` on, after those in `segment`. -/
def segmentsFrom (boundaries : List Nat) (place : Nat) (segment : Text) : Text → List Text
  | [] => if segment.isEmpty then [] else [segment]
  | c :: rest =>
      if boundaries.contains place && !segment.isEmpty then
        segment :: segmentsFrom boundaries (place + 1) [c] rest
      else segmentsFrom boundaries (place + 1) (segment ++ [c]) rest

/-- The parts of a text between changes of style. -/
def segments (t : StyledText) : List Text :=
  segmentsFrom t.boundaries 0 [] t.text

/-- The first number in the style of a span that cannot be read. -/
def styleFault? (t : StyledText) : Option IntegerFault :=
  t.spans.findSome? fun span =>
    match Style.ofText span.style with
    | .error fault => some fault
    | .ok _ => none

end StyledText

end SecurityRules
