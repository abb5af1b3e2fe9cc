import SecurityRules.Json.Token
import SecurityRules.Toml.Basic

/-!
# Strings in TOML

Four forms: basic and literal strings, each on one line or on several. Basic
strings have escapes, and on several lines a backslash at a line's end joins
the lines. Literal strings have none.
-/

namespace SecurityRules.Toml

def isBlank (c : CodePoint) : Bool :=
  c = .scalar ' ' || c = .scalar '\t'

def isBlankOrBreak (c : CodePoint) : Bool :=
  isBlank c || c = .scalar '\n'

/-- Control characters other than the tab. -/
def isControl (c : CodePoint) : Bool :=
  (c.toNat < 0x20 || c.toNat = 0x7F) && c ≠ .scalar '\t'

/-- Control characters other than the tab and the line feed. -/
def isControlInLines (c : CodePoint) : Bool :=
  isControl c && c ≠ .scalar '\n'

/-- What stands before the first occurrence of a delimiter, and the rest from
there on. -/
def splitBefore? (delimiter : Text) : Text → Option (Text × Text)
  | [] => if delimiter.isEmpty then some ([], []) else none
  | c :: rest =>
      if (delimiter.after? (c :: rest)).isSome then some ([], c :: rest)
      else (splitBefore? delimiter rest).map fun (before, found) => (c :: before, found)

/-- Refuses the first of some forbidden characters. `after` follows the text. -/
def refuseAny (forbidden : CodePoint → Bool) (after : Text) : Text → Except Stop Unit
  | [] => .ok ()
  | c :: rest =>
      if forbidden c then stopAt (c :: rest ++ after) (.invalidCharacter c)
      else refuseAny forbidden after rest

/-- Everything up to a delimiter, which has to be there. -/
def readUntil (delimiter : Text) (forbidden : CodePoint → Bool) (t : Text) : Reading Text :=
  match splitBefore? delimiter t with
  | none => stopAt [] (.missing delimiter)
  | some (before, found) =>
      (refuseAny forbidden found before).map fun _ => (before, found.drop delimiter.length)

/-- The number that hexadecimal digits spell, if all of them are such. -/
def hexNumber? (digits : Text) : Option Nat :=
  digits.foldl (fun n c => n.bind fun n => (Json.hexDigit? c).map (n * 16 + ·)) (some 0)

/-- The character of an escape of some hexadecimal digits. `t` starts with them. -/
def hexEscape (count : Nat) (t : Text) : Except Stop CodePoint :=
  let digits := t.take count
  match hexNumber? digits with
  | none => stopAt t .badHex
  | some n =>
      if digits.length < count then stopAt t .badHex
      else if h : n.isValidChar then .ok (.scalar (Char.ofNatAux n h))
      else stopAt (t.drop count) .notCharacter

/-- The character of a backslash and one more. -/
def shortEscape? : CodePoint → Option Char
  | .scalar 'b' => some '\x08'
  | .scalar 't' => some '\t'
  | .scalar 'n' => some '\n'
  | .scalar 'f' => some '\x0c'
  | .scalar 'r' => some '\r'
  | .scalar '"' => some '"'
  | .scalar '\\' => some '\\'
  | _ => none

/-- Where a basic string of several lines stands with respect to a backslash at
a line's end: nowhere near, before the line break, or among the blanks after. -/
inductive Joining where
  | no
  | beforeBreak
  | afterBreak
  deriving DecidableEq

/-- Puts a code point in front of what was read. -/
def Reading.cons (c : CodePoint) (reading : Reading Text) : Reading Text :=
  reading.map fun (read, rest) => (c :: read, rest)

/-- The inside of a basic string up to its closing quotes, and what follows
them. `skip` code points belong to an escape that is already taken. -/
def basicString (lines : Bool) (joining : Joining) (skip : Nat) : Text → Reading Text
  | [] => stopAt [] .unterminatedString
  | c :: rest =>
      match skip with
      | skip + 1 => basicString lines joining skip rest
      | 0 =>
          if joining = .beforeBreak then
            if isBlank c then basicString lines .beforeBreak 0 rest
            else if c = .scalar '\n' then basicString lines .afterBreak 0 rest
            else stopAt (c :: rest) .strayBackslash
          else if joining = .afterBreak ∧ isBlankOrBreak c then
            basicString lines .afterBreak 0 rest
          else if c = .scalar '"' then
            if lines then
              match Text.after? "\"\"" rest with
              | some after => .ok ([], after)
              | none => (basicString lines .no 0 rest).cons c
            else .ok ([], rest)
          else if c = .scalar '\\' then
            match rest with
            | [] => stopAt [] .strayBackslash
            | e :: more =>
                if lines ∧ isBlank e then basicString lines .beforeBreak 1 rest
                else if lines ∧ e = .scalar '\n' then basicString lines .afterBreak 1 rest
                else if e = .scalar 'u' then
                  match hexEscape 4 more with
                  | .error stop => .error stop
                  | .ok point => (basicString lines .no 5 rest).cons point
                else if e = .scalar 'U' then
                  match hexEscape 8 more with
                  | .error stop => .error stop
                  | .ok point => (basicString lines .no 9 rest).cons point
                else
                  match shortEscape? e with
                  | some point => (basicString lines .no 1 rest).cons (.scalar point)
                  | none => stopAt more .strayBackslash
          else if (if lines then isControlInLines c else isControl c) then
            stopAt (c :: rest) (.illegalCharacter c)
          else (basicString lines .no 0 rest).cons c

/-- Up to two quotes more that stood right before the closing ones. -/
def extraQuotes (quote : Char) (read rest : Text) : Text × Text :=
  match rest with
  | c :: d :: more =>
      if c = .scalar quote then
        if d = .scalar quote then (read ++ [c, d], more) else (read ++ [c], d :: more)
      else (read, rest)
  | [c] => if c = .scalar quote then (read ++ [c], []) else (read, rest)
  | [] => (read, rest)

/-- A string after its opening three quotes. A line break right there does not
count. -/
def linesString (quote : Char) (t : Text) : Reading Text :=
  let t := match t with
    | .scalar '\n' :: rest => rest
    | t => t
  let reading :=
    if quote = '"' then basicString true .no 0 t
    else readUntil (List.replicate 3 (.scalar quote)) isControlInLines t
  reading.map fun (read, rest) => extraQuotes quote read rest

/-- A literal string on one line, after its opening quote. -/
def literalString (t : Text) : Reading Text :=
  readUntil "'" isControl t

/-- A string of any form, if the text starts with one. -/
def string? (t : Text) : Option (Reading Text) :=
  match t with
  | .scalar '"' :: rest =>
      match Text.after? "\"\"" rest with
      | some inside => some (linesString '"' inside)
      | none => some (basicString false .no 0 rest)
  | .scalar '\'' :: rest =>
      match Text.after? "''" rest with
      | some inside => some (linesString '\'' inside)
      | none => some (literalString rest)
  | _ => none

end SecurityRules.Toml
