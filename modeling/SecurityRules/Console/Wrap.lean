import SecurityRules.Console.StyledText

/-!
# Text in a column

A styled text is laid out in a column of a given width. Tabs are filled up with
blanks, and lines that are too long break between words. A word that is too long
for the column starts on a line of its own; it goes on in the next lines, or it
is cut and ends in an ellipsis.
-/

namespace SecurityRules

/-- The side of a column on which lines stand. -/
inductive Alignment where
  | left
  | right
  deriving DecidableEq, Repr

/-- What happens to what is too long for a column. -/
inductive Overflow where
  | fold
  | ellipsis
  deriving DecidableEq, Repr

/-! ## Tabs -/

/-- The distance of tab stops. -/
def tabSize : Nat := 8

/-- The places right after each occurrence of a code point, counted from `place`. -/
def Text.placesAfter (mark : CodePoint) (place : Nat) : Text → List Nat
  | [] => []
  | c :: rest =>
      if c = mark then (place + 1) :: placesAfter mark (place + 1) rest
      else placesAfter mark (place + 1) rest

def Span.shift (n : Nat) (span : Span) : Span :=
  { span with start := span.start + n, stop := span.stop + n }

namespace StyledText

/-- A styled text after another one. -/
def append (t u : StyledText) : StyledText :=
  { text := t.text ++ u.text, spans := t.spans ++ u.spans.map (·.shift t.text.length) }

/-- A part that ends in a tab, with blanks up to the next tab stop in its place.
A style that reaches to the tab reaches over the blanks. -/
def fillTab (column : Nat) (part : StyledText) : StyledText :=
  let front : Text := part.text.dropLast ++ Text.blanks 1
  let missing := (tabSize - (column + front.width) % tabSize) % tabSize
  { text := front ++ Text.blanks missing
    spans := part.spans.map fun span =>
      if front.length ≤ span.stop then { span with stop := span.stop + missing } else span }

/-- Parts one after another from a column on. All but the last end in a tab. -/
def joinTabbed (column : Nat) : List StyledText → StyledText
  | [] => { text := [] }
  | [last] => last
  | part :: rest =>
      let filled := part.fillTab column
      filled.append (joinTabbed (column + filled.text.width) rest)

/-- A line without tabs. -/
def expandTabs (t : StyledText) : StyledText :=
  joinTabbed 0 (t.divide (t.text.placesAfter (.scalar '\t') 0))

end StyledText

/-! ## Breaks -/

/-- The words of a text, each with the blanks after it, and the first also with
those before it. `word` is what has been read of the next one. -/
def Text.wordsFrom (word : Text) : Text → List Text
  | [] => if word.all CodePoint.isBlank then [] else [word]
  | c :: rest =>
      if !c.isBlank && word.getLast?.any CodePoint.isBlank && !word.all CodePoint.isBlank then
        word :: wordsFrom [c] rest
      else wordsFrom (word ++ [c]) rest

/-- Clusters on lines of a width. The first line has `line` on it, which takes
`size` columns. -/
def Cluster.chop (width : Nat) (line : Text) (size : Nat) : List Cluster → List Text
  | [] => [line]
  | cluster :: rest =>
      if width < size + cluster.width then line :: chop width cluster.text cluster.width rest
      else chop width (line ++ cluster.text) (size + cluster.width) rest

/-- The lines of a word that starts a line. -/
def Overflow.parts (overflow : Overflow) (width : Nat) (word : Text) : List Text :=
  match overflow with
  | fold => if width < word.trimEnd.width then Cluster.chop width [] 0 word.clusters else [word]
  | ellipsis => [word]

/-- The places where parts start. -/
def startsFrom (place : Nat) : List Text → List Nat
  | [] => []
  | part :: rest => place :: startsFrom (place + part.length) rest

/-- The places at which a line breaks. The words start at `place`, and the line
they continue has `column` columns so far. -/
def breaksFrom (overflow : Overflow) (width place column : Nat) : List Text → List Nat
  | [] => []
  | word :: rest =>
      let next := place + word.length
      if column + word.trimEnd.width ≤ width then
        breaksFrom overflow width next (column + word.width) rest
      else
        let parts := overflow.parts width word
        (startsFrom place parts).filter (· ≠ 0)
          ++ breaksFrom overflow width next ((parts.getLast?.map Text.width).getD 0) rest

/-! ## Lines -/

namespace StyledText

/-- Drops blanks at the end of a line that reach past the column. -/
def dropOverhang (width : Nat) (t : StyledText) : StyledText :=
  let blanks := t.text.length - t.text.trimEnd.length
  let excess := t.text.length - width
  t.withText (t.text.take (t.text.length - min blanks excess))

/-- Cuts a line that is too wide. -/
def truncate (overflow : Overflow) (width : Nat) (t : StyledText) : StyledText :=
  if t.text.width ≤ width then t
  else
    match overflow with
    | .fold => t.withText (t.text.fit width)
    | .ellipsis => t.withText (t.text.fit (width - 1) ++ "…")

/-- Puts a line on its side of the column. -/
def align (overflow : Overflow) (alignment : Alignment) (width : Nat) (t : StyledText) :
    StyledText :=
  match alignment with
  | .left =>
      let cut := t.truncate overflow width
      { cut with text := cut.text ++ Text.blanks (width - t.text.width) }
  | .right =>
      let cut := (t.withText t.text.trimEnd).truncate overflow width
      let room := width - cut.text.width
      { text := Text.blanks room ++ cut.text, spans := cut.spans.map (·.shift room) }

/-- The parts of a line between its breaks, with no blanks past the column. -/
def breakLine (overflow : Overflow) (width : Nat) (line : StyledText) : List StyledText :=
  let line := line.expandTabs
  (line.divide (breaksFrom overflow width 0 0 (Text.wordsFrom [] line.text))).map
    (·.dropOverhang width)

/-- A part in its column. Without an alignment it is as long as it is. -/
def place (overflow : Overflow) (alignment : Option Alignment) (width : Nat) (t : StyledText) :
    StyledText :=
  match alignment with
  | none => t.truncate overflow width
  | some alignment => (t.align overflow alignment width).truncate overflow width

/-- The lines of a styled text in a column. -/
def wrap (overflow : Overflow) (alignment : Option Alignment) (width : Nat) (t : StyledText) :
    List StyledText :=
  t.lines.flatMap fun line =>
    (line.breakLine overflow width).map (·.place overflow alignment width)

end StyledText

/-! ## Segments -/

/-- The columns that segments take, each as many as it takes alone. -/
def segmentsWidth (segments : List Text) : Nat :=
  (segments.map Text.width).foldl (· + ·) 0

/-- Cuts segments to a width, in the first of them that reaches it. -/
def cropSegments (width : Nat) : List Text → List Text
  | [] => []
  | segment :: rest =>
      if segment.width < width then segment :: cropSegments (width - segment.width) rest
      else [segment.fit width]

/-- Segments that together take a given width. -/
def fitSegments (width : Nat) (segments : List Text) : List Text :=
  if segmentsWidth segments < width then
    segments ++ [Text.blanks (width - segmentsWidth segments)]
  else if width < segmentsWidth segments then cropSegments width segments
  else segments

end SecurityRules
