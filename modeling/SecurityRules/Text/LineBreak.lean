import SecurityRules.Text.CodePoint

/-!
# Line breaks

Files come with the line breaks of different systems. Inside the program a line
ends with a line feed. Other characters end a line as well where lines are only
measured.
-/

namespace SecurityRules.Text

/-- Each carriage return with a line feed after it becomes a line feed. -/
def joinBreaks : Text → Text
  | .scalar '\r' :: .scalar '\n' :: rest => .scalar '\n' :: joinBreaks rest
  | c :: rest => c :: joinBreaks rest
  | [] => []

/-- Each carriage return becomes a line feed, together with a line feed after it. -/
def plainBreaks : Text → Text
  | .scalar '\r' :: .scalar '\n' :: rest => .scalar '\n' :: plainBreaks rest
  | .scalar '\r' :: rest => .scalar '\n' :: plainBreaks rest
  | c :: rest => c :: plainBreaks rest
  | [] => []

/-- The closed ranges of characters that end a line in some system or script. -/
def breakRanges : List (Nat × Nat) :=
  [(0x0A, 0x0D), (0x1C, 0x1E), (0x85, 0x85), (0x2028, 0x2029)]

/-- A text cut at each character that ends a line. -/
def brokenLines (t : Text) : List Text :=
  t.splitOnP (·.within breakRanges)

/-- A text cut at each occurrence of a character. -/
def splitAt (mark : Char) : Text → List Text
  | [] => [[]]
  | c :: rest =>
      if c = .scalar mark then [] :: splitAt mark rest
      else
        match splitAt mark rest with
        | [] => [[c]]
        | part :: parts => (c :: part) :: parts

/-- Lines one after another, each with a line feed at its end. -/
def ofLines (lines : List Text) : Text :=
  lines.flatMap fun line => line ++ ofString "\n"

end SecurityRules.Text
