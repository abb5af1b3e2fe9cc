import SecurityRules.Console.Parameter.Number
import SecurityRules.Console.Parameter.Quotation
import SecurityRules.Text.Word

/-!
# Reading the tokens of parameters

Between brackets line breaks are blanks. Outside of them a line break ends the
line, and the blanks at the start of the next one are its indentation. A
backslash at the end of a line takes the line break away.
-/

namespace SecurityRules.Parameter

/-- How deep a line is indented: in columns where a tab goes on to the next
multiple of eight, and in columns where a tab counts one. If the two disagree
on which of two lines is deeper, tabs and spaces are mixed up. -/
structure Indent where
  columns : Nat := 0
  narrow : Nat := 0
  deriving DecidableEq, Repr

/-- What is known at a place between tokens. -/
structure Place where
  line : Nat := 1
  /-- The open brackets, the innermost first. -/
  opened : List Bracket := []
  /-- The indents that lines go back to, the deepest first. -/
  indents : List Indent := []
  deriving Repr

namespace Place

/-- A token at a place. -/
def token (kind : TokenKind) (text : List Char) (place : Place) : Token :=
  { kind, text := .ofList text, depth := place.opened.length, line := place.line }

end Place

/-- The blanks at the start of a line: how deep they indent it, the line number
after them, and the rest. Only the columns before the first backslash count if
there are any. -/
def indentOf (indent : Indent) (beforeBackslash line : Nat) :
    List Char → Except LayoutFault (Indent × Nat × List Char)
  | ' ' :: rest =>
      indentOf ⟨indent.columns + 1, indent.narrow + 1⟩ beforeBackslash line rest
  | '\t' :: rest =>
      indentOf ⟨(indent.columns / 8 + 1) * 8, indent.narrow + 1⟩ beforeBackslash line rest
  | '\x0c' :: rest => indentOf {} beforeBackslash line rest
  | '\\' :: '\n' :: rest =>
      if rest.isEmpty then .error .earlyEnd
      else
        let before := if beforeBackslash = 0 then indent.columns else beforeBackslash
        indentOf indent before (line + 1) rest
  | '\\' :: _ => .error .strayBackslash
  | rest =>
      if beforeBackslash = 0 then .ok (indent, line, rest)
      else .ok (⟨beforeBackslash, beforeBackslash⟩, line, rest)

/-- The number of indents that lines may go back to. -/
def maxIndents : Nat := 100

/-- Takes the indent of a line into account, which may open an indented part or
close some. -/
def Place.indent (indent : Indent) (place : Place) :
    Except LayoutFault (List Token × Place) :=
  let current := place.indents.headD {}
  if indent.columns = current.columns then
    if indent.narrow = current.narrow then .ok ([], place) else .error .mixedTabs
  else if current.columns < indent.columns then
    if maxIndents ≤ place.indents.length + 1 then .error .tooManyIndents
    else if indent.narrow ≤ current.narrow then .error .mixedTabs
    else .ok ([place.token .indent []], { place with indents := indent :: place.indents })
  else
    let indents := place.indents.dropWhile (indent.columns < ·.columns)
    let outer := indents.headD {}
    if indent.columns ≠ outer.columns then .error .unevenIndent
    else if indent.narrow ≠ outer.narrow then .error .mixedTabs
    else
      .ok (List.replicate (place.indents.length - indents.length) (place.token .dedent []),
        { place with indents })

/-- Skips blanks, joined lines and a comment. -/
def skipBlanks (line : Nat) : List Char → Except LayoutFault (Nat × List Char)
  | ' ' :: rest | '\t' :: rest | '\x0c' :: rest => skipBlanks line rest
  | '\\' :: '\n' :: rest =>
      if rest.isEmpty then .error .earlyEnd else skipBlanks (line + 1) rest
  | '\\' :: _ => .error .strayBackslash
  | '#' :: rest => .ok (line, rest.dropWhile (· ≠ '\n'))
  | rest => .ok (line, rest)

/-- The first character of a word that may not be where it is. -/
def strayCharacter? : List Char → Option Char
  | [] => none
  | c :: rest =>
      if !CodePoint.startsWord (.scalar c) then some c
      else rest.find? fun c => !CodePoint.continuesWord (.scalar c)

/-- The operators of more than one character, longer ones first. -/
def longOperators : List String :=
  ["**=", "//=", ">>=", "<<=", "...", "!=", "%=", "&=", "**", "*=", "+=", "-=", "->", "//",
   "/=", ":=", "<<", "<=", "<>", "==", ">=", ">>", "@=", "^=", "|="]

/-- Reads a bracket or an operator. -/
def Place.symbol (c : Char) (rest : List Char) (place : Place) :
    Except TokenFault (Token × Place × List Char) :=
  match longOperators.find? fun w => w.toList.isPrefixOf (c :: rest) with
  | some w => .ok (place.token .symbol w.toList, place, rest.drop (w.length - 1))
  | none =>
      let opened := place.opened
      if isOpening c then
        if opened.length < maxBrackets then
          let place := { place with opened := ⟨c, place.line⟩ :: opened }
          .ok (place.token .symbol [c], place, rest)
        else .error .tooManyBrackets
      else if isClosing c then
        match opened with
        | [] => .error (.unmatched c)
        | bracket :: outer =>
            if closingOf bracket.opening = c then
              let place := { place with opened := outer }
              .ok (place.token .symbol [c], place, rest)
            else
              let line := if bracket.line = place.line then none else some bracket.line
              .error (.mismatched c bracket.opening line)
      else if CodePoint.isPrintable (.scalar c) then .ok (place.token .symbol [c], place, rest)
      else .error (.strayCharacter c)

/-- Reads the token that starts with a character other than a blank. -/
def Place.next (c : Char) (rest : List Char) (place : Place) :
    Except TokenFault (Token × Place × List Char) :=
  let cs := c :: rest
  let upTo (remaining : List Char) : List Char := cs.take (cs.length - remaining.length)
  let word := cs.takeWhile isInWord
  let behind := cs.drop word.length
  if c.isDigit || (c = '.' && rest.head?.any Char.isDigit) then do
    let remaining ← if c = '.' then afterPoint rest else afterNumber c rest
    return (place.token .number (upTo remaining), place, remaining)
  else if behind.head?.any isQuote && (quotedForm? word).isSome then do
    let (remaining, line) ← afterQuoted (behind.headD ' ') place.line (behind.drop 1)
    return (place.token .quoted (upTo remaining), { place with line }, remaining)
  else if word.isEmpty then place.symbol c rest
  else
    match (if word.all (·.toNat < 0x80) then none else strayCharacter? word) with
    | some c => .error (.strayCharacter c)
    | none =>
        let kind := if reservedWords.contains (.ofList word) then .symbol else .name
        .ok (place.token kind word, place, behind)

/-- The tokens of what is left, in as many rounds as given. A round reads a
token or a line break, so there are never more rounds than characters and one
for the end. -/
def tokensFrom : (rounds : Nat) → Place → (atLineStart : Bool) → List Char →
    List Token × Ending × Option Bracket
  | 0, place, _, _ => ([], .complete, place.opened.head?)
  | rounds + 1, place, atLineStart, cs =>
      let stopped (ending : Ending) : List Token × Ending × Option Bracket :=
        ([], ending, place.opened.head?)
      let layout : Except LayoutFault (List Token × Place × Bool × List Char) := do
        if atLineStart then
          let (indent, line, rest) ← indentOf {} 0 place.line cs
          let place := { place with line }
          let isBlank := rest.head?.any fun c => c = '#' || c = '\n'
          if isBlank || !place.opened.isEmpty then return ([], place, isBlank, rest)
          else
            let (tokens, place) ← place.indent indent
            return (tokens, place, false, rest)
        else return ([], place, false, cs)
      match layout with
      | .error fault => stopped (.badLayout fault)
      | .ok (before, place, isBlank, cs) =>
          let following (result : List Token × Ending × Option Bracket) :
              List Token × Ending × Option Bracket :=
            (before ++ result.1, result.2)
          match skipBlanks place.line cs with
          | .error fault => following (stopped (.badLayout fault))
          | .ok (line, cs) =>
              let place := { place with line }
              match cs with
              | [] =>
                  match place.opened.head? with
                  | some bracket => following (stopped (.badLayout (.openBracket bracket.opening)))
                  | none => following ([place.token .stop []], .complete, none)
              | '\n' :: rest =>
                  let after := tokensFrom rounds { place with line := line + 1 } true rest
                  if isBlank || !place.opened.isEmpty then following after
                  else following (place.token .lineEnd [] :: after.1, after.2)
              | c :: rest =>
                  match place.next c rest with
                  | .error fault => following (stopped (.badToken fault))
                  | .ok (token, place, rest) =>
                      let after := tokensFrom rounds place false rest
                      following ({ token with isLast := rest.isEmpty } :: after.1, after.2)

/-- The tokens of a text that starts on a given line. -/
def Tokens.ofText (line : Nat) (cs : List Char) : Tokens :=
  let (tokens, ending, opened) := tokensFrom (cs.length + 1) { line } true cs
  { tokens := tokens.toArray, ending, opened }

end SecurityRules.Parameter
