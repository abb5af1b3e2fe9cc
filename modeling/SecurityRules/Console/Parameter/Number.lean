import SecurityRules.Console.Parameter.Token

/-!
# Numbers in parameters

Where a number ends, and its value if it is a whole one. Digits may be grouped
by single underscores. A number may not run into a word, save for the few words
that can follow it.
-/

namespace SecurityRules.Parameter

/-- Whether a character may stand in a word, as far as tokens are told apart:
every character beyond ASCII may. -/
def isInWord (c : Char) : Bool :=
  c.isAlphanum || c = '_' || 0x80 ≤ c.toNat

/-- What stands before a place among the digits of a number. -/
inductive Neighbour where
  | base
  | digit
  | underscore
  deriving DecidableEq, Repr

/-- What follows digits with single underscores before or between them, or what
stands where there should be a digit. -/
def afterDigits (isDigit : Char → Bool) (before : Neighbour) :
    List Char → Except (List Char) (List Char)
  | [] => if before = .digit then .ok [] else .error []
  | c :: rest =>
      if isDigit c then afterDigits isDigit .digit rest
      else if c = '_' && before ≠ .underscore then afterDigits isDigit .underscore rest
      else if before = .digit then .ok (c :: rest)
      else .error (c :: rest)

/-- What follows decimal digits, the first of which has been read. -/
def afterDecimals (cs : List Char) : Except TokenFault (List Char) :=
  match afterDigits Char.isDigit .digit cs with
  | .ok rest => .ok rest
  | .error _ => .error (.badNumber .decimal)

/-- The words that may follow a number without a blank, if they end there. -/
def closeWords : List String := ["and", "else", "for", "not", "or"]

/-- What a word that follows a number without a blank may also start with. -/
def closeBeginnings : List String := ["if", "in", "is"]

/-- Whether a word stands here that may follow a number without a blank. -/
def startsClose (cs : List Char) : Bool :=
  (closeBeginnings.any fun w => w.toList.isPrefixOf cs) ||
    closeWords.any fun w => w.toList.isPrefixOf cs && !(cs.drop w.length).head?.any isInWord

/-- A number may not run into a word, save those that can follow it. -/
def endNumber (form : NumberForm) (cs : List Char) : Except TokenFault (List Char) :=
  if cs.head?.any isInWord && !startsClose cs then .error (.badNumber form) else .ok cs

/-- What follows a number in another base. -/
def afterBased (form : NumberForm) (isDigit : Char → Bool) (cs : List Char) :
    Except TokenFault (List Char) :=
  let refused (rest : List Char) : TokenFault :=
    match rest.head? with
    | some c => if c.isDigit then .badDigit c form else .badNumber form
    | none => .badNumber form
  match afterDigits isDigit .base cs with
  | .error rest => .error (refused rest)
  | .ok rest =>
      if rest.head?.any Char.isDigit then .error (refused rest) else endNumber form rest

/-- What follows a number after its fraction and exponent. -/
def afterExponent : List Char → Except TokenFault (List Char)
  | 'j' :: rest | 'J' :: rest => endNumber .imaginary rest
  | rest => endNumber .decimal rest

/-- What follows a number after its fraction. -/
def afterFraction : List Char → Except TokenFault (List Char)
  | [] => .ok []
  | c :: rest =>
      if c = 'e' || c = 'E' then
        let hasSign := rest.head? = some '+' || rest.head? = some '-'
        let power := if hasSign then rest.drop 1 else rest
        if power.head?.any Char.isDigit then
          afterDecimals (power.drop 1) >>= afterExponent
        else if hasSign then .error (.badNumber .decimal)
        else endNumber .decimal (c :: rest)
      else afterExponent (c :: rest)

/-- What follows the point of a number. -/
def afterPoint (cs : List Char) : Except TokenFault (List Char) :=
  if cs.head?.any Char.isDigit then afterDecimals (cs.drop 1) >>= afterFraction
  else afterFraction cs

def isOctalDigit (c : Char) : Bool := '0' ≤ c && c ≤ '7'

def isBinaryDigit (c : Char) : Bool := c = '0' || c = '1'

def isHexadecimalDigit (c : Char) : Bool :=
  c.isDigit || ('a' ≤ c.toLower && c.toLower ≤ 'f')

/-- What follows a number that starts with a digit. -/
def afterNumber (first : Char) (cs : List Char) : Except TokenFault (List Char) :=
  let based := (if first = '0' then cs.head? else none).bind fun c =>
    match c.toLower with
    | 'x' => some (afterBased .hexadecimal isHexadecimalDigit (cs.drop 1))
    | 'o' => some (afterBased .octal isOctalDigit (cs.drop 1))
    | 'b' => some (afterBased .binary isBinaryDigit (cs.drop 1))
    | _ => none
  match based with
  | some result => result
  | none => do
      let rest ← afterDecimals cs
      match rest with
      | '.' :: fraction => afterPoint fraction
      | _ =>
          let digits := cs.take (cs.length - rest.length)
          let isWhole := !rest.head?.any fun c => ['e', 'j'].contains c.toLower
          if first = '0' && isWhole && digits.any fun c => c ≠ '0' && c ≠ '_' then
            .error .leadingZeros
          else afterFraction rest

/-- The value of a digit in any base up to sixteen. -/
def digitValue (c : Char) : Nat :=
  if c.isDigit then c.toNat - '0'.toNat else c.toLower.toNat - 'a'.toNat + 10

/-- What a number token stands for. -/
inductive Number where
  | whole (n : Nat)
  | fractional
  | imaginary
  deriving DecidableEq, Repr

/-- The longest whole number that is read in decimal. -/
def maxDigits : Nat := 4300

/-- What a number stands for, or how many decimal digits it has if they are too
many. -/
def Number.ofText (text : String) : Except Nat Number :=
  let cs := text.toList.filter (· ≠ '_')
  let inBase (base : Nat) : Number :=
    .whole ((cs.drop 2).foldl (fun n c => base * n + digitValue c) 0)
  let hasPoint := cs.contains '.'
  match cs with
  | '0' :: c :: _ =>
      match c.toLower with
      | 'x' => .ok (inBase 16)
      | 'o' => .ok (inBase 8)
      | 'b' => .ok (inBase 2)
      | _ => plain cs hasPoint
  | _ => plain cs hasPoint
where
  plain (cs : List Char) (hasPoint : Bool) : Except Nat Number :=
    if cs.getLast?.any fun c => c = 'j' || c = 'J' then .ok .imaginary
    else if hasPoint || cs.any fun c => c = 'e' || c = 'E' then .ok .fractional
    else if maxDigits < cs.length && cs.any (· ≠ '0') then .error cs.length
    else .ok (.whole (cs.foldl (fun n c => 10 * n + digitValue c) 0))

end SecurityRules.Parameter
