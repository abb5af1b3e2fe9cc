import SecurityRules.Console.Parameter.Fault
import SecurityRules.Console.Parameter.Node
import SecurityRules.Console.Parameter.Quotation

/-!
# Templates in parameters

A template is a quoted text with expressions in braces. A brace that is text is
written twice. After an expression there may be an equals sign, a conversion,
and a colon with a format, which is a template itself but cannot hold another.
-/

namespace SecurityRules.Parameter

/-- Where a plain part of a template ends. -/
inductive PartEnd where
  /-- At a brace that was written twice. -/
  | doubled
  /-- Right before a brace. -/
  | brace
  | finished
  | loneClosing
  deriving DecidableEq, Repr

/-- A plain part of a template, and what follows it. -/
structure PlainPart where
  text : List Char
  partEnd : PartEnd
  rest : List Char

/-- What a brace makes of a plain part before it. Braces can be doubled outside
of formats only, and outside of them a closing one does not stand alone. -/
def PlainPart.atBrace (isFormat : Bool) (text : List Char) (brace : Char) (rest : List Char) :
    PlainPart :=
  if isFormat then { text, partEnd := .brace, rest := brace :: rest }
  else if rest.head? = some brace then
    { text := text ++ [brace], partEnd := .doubled, rest := rest.drop 1 }
  else if brace = '\x7d' then { text, partEnd := .loneClosing, rest }
  else { text, partEnd := .brace, rest := brace :: rest }

def isBrace (c : Char) : Bool := c = '\x7b' || c = '\x7d'

/-- The plain part at the start of a text. The braces around the name of a
character belong to it. `read` is what has been read of it, the last character
first. -/
def plainPart (isRaw isFormat inName : Bool) (read : List Char) : List Char → PlainPart
  | [] => { text := read.reverse, partEnd := .finished, rest := [] }
  | c :: rest =>
      if inName then plainPart isRaw isFormat (c ≠ '\x7d') (c :: read) rest
      else if c = '\\' && !isRaw then
        match rest with
        | [] => { text := (c :: read).reverse, partEnd := .finished, rest := [] }
        | ['N'] => { text := ('N' :: c :: read).reverse, partEnd := .finished, rest := [] }
        | 'N' :: d :: rest =>
            plainPart isRaw isFormat (d = '\x7b') (d :: 'N' :: c :: read) rest
        | d :: rest =>
            if isBrace d then .atBrace isFormat (c :: read).reverse d rest
            else plainPart isRaw isFormat false (d :: c :: read) rest
      else if isBrace c then .atBrace isFormat read.reverse c rest
      else plainPart isRaw isFormat false (c :: read) rest

/-- The quote that a text in an expression ends with. -/
structure OpenQuote where
  quote : Char
  isTriple : Bool

/-- The expression at the start of a text, and what follows it. It ends at one
of a few signs outside of brackets and quotes. -/
def expressionPart (opened : Option OpenQuote) (brackets : List Char) (read : List Char) :
    List Char → Except TemplateFault (List Char × List Char)
  | [] =>
      match opened, brackets with
      | some _, _ => .error .openQuote
      | none, bracket :: _ => .error (.unmatched bracket)
      | none, [] => .error .noClosing
  | c :: rest =>
      if c = '\\' then .error .backslash
      else
        match opened with
        | some quoted =>
            if c ≠ quoted.quote then expressionPart opened brackets (c :: read) rest
            else if !quoted.isTriple then expressionPart none brackets (c :: read) rest
            else
              match rest with
              | d :: e :: after =>
                  if d = c && e = c then expressionPart none brackets (e :: d :: c :: read) after
                  else expressionPart opened brackets (c :: read) (d :: e :: after)
              | rest => expressionPart opened brackets (c :: read) rest
        | none =>
            if isQuote c then
              match rest with
              | d :: e :: after =>
                  if d = c && e = c then
                    expressionPart (some ⟨c, true⟩) brackets (e :: d :: c :: read) after
                  else expressionPart (some ⟨c, false⟩) brackets (c :: read) (d :: e :: after)
              | rest => expressionPart (some ⟨c, false⟩) brackets (c :: read) rest
            else if isOpening c then
              if brackets.length < maxBrackets then
                expressionPart none (c :: brackets) (c :: read) rest
              else .error .tooManyBrackets
            else if c = '#' then .error .comment
            else if brackets.isEmpty && ['!', ':', '\x7d', '=', '>', '<'].contains c then
              match rest with
              | '=' :: after =>
                  if ['!', '=', '<', '>'].contains c then
                    expressionPart none brackets ('=' :: c :: read) after
                  else .ok (read.reverse, c :: rest)
              | rest =>
                  if c = '>' || c = '<' then expressionPart none brackets (c :: read) rest
                  else .ok (read.reverse, c :: rest)
            else if isClosing c then
              match brackets with
              | [] => .error (.unmatched c)
              | bracket :: outer =>
                  if closingOf bracket = c then expressionPart none outer (c :: read) rest
                  else .error (.mismatched c bracket)
            else expressionPart none brackets (c :: read) rest

/-- Whether a character is a blank in an expression. -/
def isExpressionBlank (c : Char) : Bool :=
  c = ' ' || c = '\t' || c = '\n' || c = '\x0c'

/-- Reads an expression of a template, which is followed by a given character. -/
def checkExpression (template : List Char → Nat → Except Fault Unit) (line : Nat)
    (expression : List Char) (next : Char) : Except Fault Unit :=
  if expression.all isExpressionBlank then
    .error (.template (if next = '\x7d' then .noExpression else .noExpressionBefore next))
  else template expression line

/-- What follows the equals sign and the conversion after an expression. -/
def afterConversion (cs : List Char) : Except TemplateFault (List Char) := do
  let cs ← match cs with
    | '=' :: rest =>
        let rest := rest.dropWhile fun c => isExpressionBlank c || c = '\r' || c = '\x0b'
        if rest.isEmpty then .error .noClosing else .ok rest
    | cs => .ok cs
  match cs with
  | ['!'] => .error .noClosing
  | '!' :: c :: rest =>
      if c = 's' || c = 'r' || c = 'a' then .ok rest else .error .badConversion
  | cs => .ok cs

/-- How many formats may stand one in another, the template included. -/
def maxFormats : Nat := 2

/-- Reads the parts of a template up to its end, or those of a format up to its
closing brace, and gives what is left. A round takes a character at least. -/
def templateParts (template : List Char → Nat → Except Fault Unit) (isRaw : Bool)
    (lineOf : List Char → Nat) :
    (rounds : Nat) → (formats : Nat) → List Char → Except Fault (List Char)
  | 0, _, cs => .ok cs
  | rounds + 1, formats, cs => do
      let part := plainPart isRaw (formats ≠ 0) false [] cs
      if part.partEnd = .loneClosing then .error (.template .loneClosing)
      else
        match (if isRaw then none else escapeFault? part.text) with
        | some fault => .error (.escape fault)
        | none =>
            match part.partEnd, part.rest with
            | .doubled, rest => templateParts template isRaw lineOf rounds formats rest
            | .brace, '\x7b' :: rest =>
                if maxFormats ≤ formats then .error (.template .tooDeep)
                else
                  let (expression, after) ← (expressionPart none [] [] rest).mapError .template
                  checkExpression template (lineOf rest) expression (after.headD ' ')
                  let after ← (afterConversion after).mapError .template
                  let after ← match after with
                    | [':'] => .error (.template .noClosing)
                    | ':' :: format =>
                        templateParts template isRaw lineOf rounds (formats + 1) format
                    | after => .ok after
                  match after with
                  | '\x7d' :: after => templateParts template isRaw lineOf rounds formats after
                  | _ => .error (.template .noClosing)
            | _, rest =>
                if formats ≠ 0 && rest.isEmpty then .error (.template .noClosing) else .ok rest

/-- Reads a template that starts on a given line. -/
def checkTemplate (template : List Char → Nat → Except Fault Unit) (line : Nat)
    (q : Quotation) : Except Fault Unit := do
  let lineBreaks (cs : List Char) : Nat := cs.count '\n'
  let lineOf (rest : List Char) : Nat := line + lineBreaks q.content - lineBreaks rest
  let _ ← templateParts template q.isRaw lineOf (q.content.length + 1) 0 q.content

/-- Reads what stands in quotes, apart from templates. -/
def checkQuotation (q : Quotation) : Except Fault Unit :=
  match q.form with
  | .template => .ok ()
  | .text =>
      match (if q.isRaw then none else escapeFault? q.content) with
      | some fault => .error (.escape fault)
      | none => .ok ()
  | .bytes =>
      if q.content.any (0x80 ≤ ·.toNat) then .error .bytesBeyondAscii
      else
        match (if q.isRaw then none else bytesFaultFrom? 0 q.content) with
        | some position => .error (.bytesEscape position)
        | none => .ok ()

/-- Quoted texts side by side, each with its line. Bytes do not go together with
anything else, and a template makes a template of the whole. -/
def quotedTogether (template : List Char → Nat → Except Fault Unit)
    (quotations : List (Quotation × Nat)) : Except Fault Node := do
  let ofBytes := quotations.head?.any (·.1.form = .bytes)
  quotations.forM fun (q, line) => do
    checkQuotation q
    if (q.form = .bytes) != ofBytes then .error .mixedQuotes
    else if q.form = .template then checkTemplate template line q
  if ofBytes then return .constant .bytes
  else if quotations.any (·.1.form = .template) then return .compound .template []
  else return .constant .text

end SecurityRules.Parameter
