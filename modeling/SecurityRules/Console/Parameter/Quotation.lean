import SecurityRules.Console.Parameter.Token

/-!
# Quoted texts in parameters

A quoted text has a quote or three at both ends, and letters before it may say
what it is: bytes, a raw text, or a template that holds expressions of its own.
-/

namespace SecurityRules.Parameter

/-- What stands in quotes. -/
inductive QuotedForm where
  | text
  | bytes
  | template
  deriving DecidableEq, Repr

/-- The letters that may stand right before a quote: what they make of the text,
and whether it is raw. -/
def quotedForm? (letters : List Char) : Option (QuotedForm × Bool) :=
  match letters.map Char.toLower with
  | [] | ['u'] => some (.text, false)
  | ['r'] => some (.text, true)
  | ['b'] => some (.bytes, false)
  | ['b', 'r'] | ['r', 'b'] => some (.bytes, true)
  | ['f'] => some (.template, false)
  | ['f', 'r'] | ['r', 'f'] => some (.template, true)
  | _ => none

def isQuote (c : Char) : Bool := c = '\'' || c = '"'

/-- What follows a quoted text and on which line. The text ends with `size`
quotes in a row, of which `run` stand right before this place. -/
def afterQuote (quote : Char) (size run line : Nat) :
    List Char → Except TokenFault (List Char × Nat)
  | [] => .error (if size = 1 then .openQuote line else .openTripleQuote line)
  | '\\' :: c :: rest => afterQuote quote size 0 (if c = '\n' then line + 1 else line) rest
  | c :: rest =>
      if c = quote then
        if run + 1 = size then .ok (rest, line) else afterQuote quote size (run + 1) line rest
      else if c = '\n' then
        if size = 1 then .error (.openQuote line) else afterQuote quote size 0 (line + 1) rest
      else afterQuote quote size 0 line rest

/-- What follows a quoted text whose first quote has been read. -/
def afterQuoted (quote : Char) (line : Nat) (cs : List Char) :
    Except TokenFault (List Char × Nat) :=
  if cs.take 2 = [quote, quote] then afterQuote quote 3 0 line (cs.drop 2)
  else if cs.head? = some quote then .ok (cs.drop 1, line)
  else afterQuote quote 1 0 line cs

/-- A quoted text taken apart. -/
structure Quotation where
  form : QuotedForm
  isRaw : Bool
  /-- The text up to the first character between the quotes. -/
  opening : List Char
  content : List Char
  deriving Repr

/-- Takes a quoted text apart. -/
def Quotation.ofText (text : String) : Quotation :=
  let cs := text.toList
  let letters := cs.takeWhile (!isQuote ·)
  let (form, isRaw) := (quotedForm? letters).getD (.text, false)
  let quotes := cs.drop letters.length
  let size := if 6 ≤ quotes.length && quotes.take 3 = List.replicate 3 (quotes.headD ' ') then 3
    else 1
  { form, isRaw
    opening := cs.take (letters.length + size)
    content := (quotes.drop size).take (quotes.length - 2 * size) }

end SecurityRules.Parameter
