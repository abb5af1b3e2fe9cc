import SecurityRules.Console.Parameter.Number
import SecurityRules.Text.CharacterName

/-!
# Escapes in quoted texts

A backslash in a quoted text starts an escape. Most of them cannot go wrong: an
unknown one stands for itself. Those that name a character by number or by name
can. The place of a fault is counted in the text with every character beyond
ASCII written as an escape of ten characters.
-/

namespace SecurityRules.Parameter

/-- Why an escape in a text cannot be read. -/
inductive EscapeReason where
  | shortNumber (letter : Char)
  | noCharacter
  | badName
  | unknownName
  deriving DecidableEq, Repr

/-- The number of hexadecimal digits that follow a letter in an escape. -/
def escapeDigits (letter : Char) : Nat :=
  if letter = 'x' then 2 else if letter = 'u' then 4 else 8

def EscapeReason.message : EscapeReason → Text
  | shortNumber letter =>
      "truncated \\" ++ Text.ofChars [letter] ++ Text.times (escapeDigits letter) "X" ++ " escape"
  | noCharacter => "illegal Unicode character"
  | badName => "malformed \\N character escape"
  | unknownName => "unknown Unicode character name"

/-- An escape that cannot be read, with its place: from `start` up to `stop`. -/
structure EscapeFault where
  start : Nat
  stop : Nat
  reason : EscapeReason
  deriving DecidableEq, Repr

def EscapeFault.message (fault : EscapeFault) : Text :=
  "(unicode error) 'unicodeescape' codec can't decode bytes in position "
    ++ Text.ofNat fault.start ++ "-" ++ Text.ofNat (fault.stop - 1) ++ ": "
    ++ fault.reason.message

/-- A backslash as an escape. -/
def spelledBackslash : List Char := "\\u005c".toList

/-- A character beyond ASCII as an escape. -/
def spelledCharacter (c : Char) : List Char :=
  let digits := Nat.toDigits 16 c.toNat
  '\\' :: 'U' :: List.replicate (8 - digits.length) '0' ++ digits

/-- A text in which characters beyond ASCII are written as escapes. A backslash
before one of them, or at the end, stands for itself. -/
def spelledOut : List Char → List Char
  | [] => []
  | ['\\'] => spelledBackslash
  | '\\' :: c :: rest =>
      if c.toNat < 0x80 then '\\' :: c :: spelledOut rest
      else spelledBackslash ++ spelledCharacter c ++ spelledOut rest
  | c :: rest =>
      if c.toNat < 0x80 then c :: spelledOut rest else spelledCharacter c ++ spelledOut rest

/-- The largest number of a character. -/
def maxCharacter : Nat := 0x10FFFF

/-- What is wrong with an escape by number: the letter after the backslash at
`start`, and what follows it. -/
def numberFault? (start : Nat) (letter : Char) (cs : List Char) : Option EscapeFault :=
  let digits := (cs.take (escapeDigits letter)).takeWhile isHexadecimalDigit
  let stop := start + 2 + digits.length
  if digits.length < escapeDigits letter then some ⟨start, stop, .shortNumber letter⟩
  else if maxCharacter < digits.foldl (fun n c => 16 * n + digitValue c) 0 then
    some ⟨start, stop, .noCharacter⟩
  else none

/-- What is wrong with an escape by name: the backslash at `start`, and what
follows the letter. -/
def nameFault? (start : Nat) : List Char → Option EscapeFault
  | '\x7b' :: cs =>
      let name := cs.takeWhile (· ≠ '\x7d')
      let stop := start + 3 + name.length
      if name.isEmpty || name.length = cs.length then some ⟨start, stop, .badName⟩
      else if isCharacterName name then none
      else some ⟨start, stop + 1, .unknownName⟩
  | _ => some ⟨start, start + 2, .badName⟩

/-- The first fault in a text that is spelled out, at a position. -/
def faultFrom? (position : Nat) : List Char → Option EscapeFault
  | [] => none
  | '\\' :: c :: rest =>
      let fault? :=
        if c = 'x' || c = 'u' || c = 'U' then numberFault? position c rest
        else if c = 'N' then nameFault? position rest
        else none
      fault?.or (faultFrom? (position + 2) rest)
  | _ :: rest => faultFrom? (position + 1) rest

/-- The first fault among the escapes of a text. -/
def escapeFault? (cs : List Char) : Option EscapeFault :=
  faultFrom? 0 (spelledOut cs)

/-- The place of the first fault among the escapes of quoted bytes, of which
only those by number can go wrong. -/
def bytesFaultFrom? (position : Nat) : List Char → Option Nat
  | [] => none
  | '\\' :: c :: rest =>
      if c = 'x' && ((rest.take 2).takeWhile isHexadecimalDigit).length < 2 then some position
      else bytesFaultFrom? (position + 2) rest
  | _ :: rest => bytesFaultFrom? (position + 1) rest

end SecurityRules.Parameter
