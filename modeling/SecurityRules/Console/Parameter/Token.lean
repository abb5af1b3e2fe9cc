import SecurityRules.Text.Printable

/-!
# Tokens of parameters

The parameters of a handler are written as an expression: names, numbers,
quoted texts, operators, brackets and words with a meaning of their own. Tokens
are read up to the first place where none can be read. What stops them there is
a bad token, or the way that tokens are laid out: brackets left open, a stray
backslash, uneven indentation.
-/

namespace SecurityRules.Parameter

/-- How a number is written. -/
inductive NumberForm where
  | decimal
  | hexadecimal
  | octal
  | binary
  | imaginary
  deriving DecidableEq, Repr

def NumberForm.title : NumberForm → Text
  | decimal => "decimal"
  | hexadecimal => "hexadecimal"
  | octal => "octal"
  | binary => "binary"
  | imaginary => "imaginary"

/-- Why no token can be read at a place. -/
inductive TokenFault where
  | badNumber (form : NumberForm)
  | badDigit (digit : Char) (form : NumberForm)
  | leadingZeros
  | openQuote (line : Nat)
  | openTripleQuote (line : Nat)
  | unmatched (closing : Char)
  /-- The line is that of the opening bracket, if it is another one. -/
  | mismatched (closing opening : Char) (line : Option Nat)
  | tooManyBrackets
  | strayCharacter (c : Char)
  deriving DecidableEq, Repr

/-- The number of a character in upper-case hexadecimal, four digits at least. -/
def characterNumber (c : Char) : Text :=
  (Text.ofHex 4 c.toNat).map fun
    | .scalar d => .scalar d.toUpper
    | half => half

def TokenFault.message : TokenFault → Text
  | badNumber form => "invalid " ++ form.title ++ " literal"
  | badDigit digit form =>
      "invalid digit '" ++ Text.ofChars [digit] ++ "' in " ++ form.title ++ " literal"
  | leadingZeros =>
      "leading zeros in decimal integer literals are not permitted; "
        ++ "use an 0o prefix for octal integers"
  | openQuote line =>
      "unterminated string literal (detected at line " ++ Text.ofNat line ++ ")"
  | openTripleQuote line =>
      "unterminated triple-quoted string literal (detected at line " ++ Text.ofNat line ++ ")"
  | unmatched closing => "unmatched '" ++ Text.ofChars [closing] ++ "'"
  | mismatched closing opening line =>
      let place : Text := match line with
        | some line => " on line " ++ Text.ofNat line
        | none => []
      "closing parenthesis '" ++ Text.ofChars [closing]
        ++ "' does not match opening parenthesis '" ++ Text.ofChars [opening] ++ "'" ++ place
  | tooManyBrackets => "too many nested parentheses"
  | strayCharacter c =>
      if CodePoint.isPrintable (.scalar c) then
        "invalid character '" ++ Text.ofChars [c] ++ "' (U+" ++ characterNumber c ++ ")"
      else "invalid non-printable character U+" ++ characterNumber c

/-- What is wrong with the way that tokens are laid out. -/
inductive LayoutFault where
  | openBracket (opening : Char)
  | strayBackslash
  | earlyEnd
  | unevenIndent
  | mixedTabs
  | tooManyIndents
  deriving DecidableEq, Repr

def LayoutFault.message : LayoutFault → Text
  | openBracket opening => "'" ++ Text.ofChars [opening] ++ "' was never closed"
  | strayBackslash => "unexpected character after line continuation character"
  | earlyEnd => "unexpected EOF while parsing"
  | unevenIndent => "unindent does not match any outer indentation level"
  | mixedTabs => "inconsistent use of tabs and spaces in indentation"
  | tooManyIndents => "too many levels of indentation"

inductive TokenKind where
  | name
  | number
  | quoted
  /-- An operator, a bracket or a reserved word. -/
  | symbol
  | lineEnd
  | indent
  | dedent
  /-- The end of the text. -/
  | stop
  deriving DecidableEq, Repr

structure Token where
  kind : TokenKind
  text : String
  /-- How many brackets are open after the token. -/
  depth : Nat
  line : Nat
  /-- Whether nothing follows it, no blank either. -/
  isLast : Bool := false
  deriving Repr

/-- Whether a token is a given symbol. -/
def Token.isSymbol (w : String) (t : Token) : Bool :=
  t.kind = .symbol && t.text = w

/-- What stops the tokens of a text. -/
inductive Ending where
  | complete
  | badToken (fault : TokenFault)
  | badLayout (fault : LayoutFault)
  deriving DecidableEq, Repr

def isOpening (c : Char) : Bool := c = '(' || c = '[' || c = '\x7b'

def isClosing (c : Char) : Bool := c = ')' || c = ']' || c = '\x7d'

/-- The bracket that closes what a bracket opens. -/
def closingOf (opening : Char) : Char :=
  if opening = '(' then ')' else if opening = '[' then ']' else '\x7d'

/-- The number of brackets that may be open at a time. -/
def maxBrackets : Nat := 200

/-- A bracket that is open, and the line that it stands on. -/
structure Bracket where
  opening : Char
  line : Nat
  deriving DecidableEq, Repr

/-- The tokens of a text. -/
structure Tokens where
  tokens : Array Token
  ending : Ending
  /-- The innermost bracket that is open where the tokens stop. -/
  opened : Option Bracket
  deriving Repr

/-- The words that are no names. -/
def reservedWords : List String :=
  ["False", "None", "True", "and", "as", "assert", "async", "await", "break", "class",
   "continue", "def", "del", "elif", "else", "except", "finally", "for", "from", "global",
   "if", "import", "in", "is", "lambda", "nonlocal", "not", "or", "pass", "raise", "return",
   "try", "while", "with", "yield"]

end SecurityRules.Parameter
