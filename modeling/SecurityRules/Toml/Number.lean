import SecurityRules.Json.Token
import SecurityRules.Toml.Basic

/-!
# Numbers, dates and times in TOML

Digits may be grouped by single underscores. Integers may also be written in
hexadecimal, octal and binary. A date has to exist in the calendar; the time
after it, and the offset after that, are taken only as a whole.
-/

namespace SecurityRules.Toml

/-- The digits at the front of a text, single underscores between them dropped,
and what follows. -/
def groupedDigits (isDigit : Char → Bool) : Text → List Char × Text
  | .scalar '_' :: .scalar d :: rest =>
      if isDigit d then
        let (digits, after) := groupedDigits isDigit rest
        (d :: digits, after)
      else ([], .scalar '_' :: .scalar d :: rest)
  | .scalar d :: rest =>
      if isDigit d then
        let (digits, after) := groupedDigits isDigit rest
        (d :: digits, after)
      else ([], .scalar d :: rest)
  | t => ([], t)

/-- Grouped digits that start with a digit. `none` if there is none. -/
def digits? (isDigit : Char → Bool) (t : Text) : Option (List Char × Text) :=
  match t with
  | .scalar d :: _ => if isDigit d then some (groupedDigits isDigit t) else none
  | _ => none

/-- The digits of a base. -/
def isDigitOf (base : Nat) (c : Char) : Bool :=
  match Json.hexDigit? (.scalar c) with
  | some d => d < base
  | none => false

/-- An integer with the mark of its base. -/
def based? (mark : Text) (base : Nat) (t : Text) : Option (Int × Text) :=
  match mark.after? t with
  | none => none
  | some rest =>
      (digits? (isDigitOf base) rest).map fun (digits, after) =>
        (digits.foldl (fun (n : Int) d => n * base + (Json.hexDigit? (.scalar d)).getD 0) 0, after)

/-- The digits before the point of a decimal. -/
def whole? (t : Text) : Option (List Char × Text) :=
  match t with
  | .scalar '0' :: rest => some (['0'], rest)
  | t => digits? Char.isDigit t

/-- A sign at the front of a text. -/
def sign (t : Text) : Bool × Text :=
  match t with
  | .scalar '-' :: rest => (true, rest)
  | .scalar '+' :: rest => (false, rest)
  | t => (false, t)

def fraction (t : Text) : Option (List Char) × Text :=
  match t with
  | .scalar '.' :: rest =>
      match digits? Char.isDigit rest with
      | some (digits, after) => (some digits, after)
      | none => (none, t)
  | t => (none, t)

def exponent (t : Text) : Option (Bool × List Char) × Text :=
  match t with
  | .scalar c :: rest =>
      if c = 'e' ∨ c = 'E' then
        let (negative, unsigned) := sign rest
        match digits? Char.isDigit unsigned with
        | some (digits, after) => (some (negative, digits), after)
        | none => (none, t)
      else (none, t)
  | _ => (none, t)

/-- A decimal number. -/
def decimal? (t : Text) : Option (Numeral × Text) :=
  let (negative, unsigned) := sign t
  (whole? unsigned).map fun (whole, afterWhole) =>
    let (fraction, afterFraction) := fraction afterWhole
    let (exponent, after) := exponent afterFraction
    (⟨negative, whole, fraction, exponent⟩, after)

/-- A number in any notation, if the text starts with one. -/
def number? (t : Text) : Option (Reading Value) :=
  let based := (based? "0x" 16 t).or ((based? "0b" 2 t).or (based? "0o" 8 t))
  match based with
  | some (n, after) => some (.ok (.int n, after))
  | none =>
      (decimal? t).map fun (numeral, after) =>
        match numeral.toInt? with
        | none => .ok (.float numeral.toBinary64, after)
        | some n =>
            if numeral.whole.length ≤ maxIntegerDigits then .ok (.int n, after)
            else .error (.tooManyDigits numeral.whole.length)

/-- The words for numbers that have no digits. -/
def floatWord? (t : Text) : Option (Value × Text) :=
  let words : List (Text × Binary64) :=
    [("inf", .infinity false), ("nan", .nan), ("-inf", .infinity true), ("+inf", .infinity false),
     ("-nan", .nan), ("+nan", .nan)]
  words.findSome? fun (word, x) => (word.after? t).map (.float x, ·)

/-- A number of exactly so many digits. -/
def fixedDigits? (count : Nat) (t : Text) : Option (Nat × Text) :=
  let digits := (t.take count).filterMap fun
    | .scalar c => if c.isDigit then some c else none
    | .surrogate _ => none
  if digits.length = count then some (naturalOf digits, t.drop count) else none

/-- A number of two digits within bounds. -/
def twoDigits? (low high : Nat) (t : Text) : Option (Nat × Text) :=
  (fixedDigits? 2 t).bind fun (n, rest) =>
    if low ≤ n ∧ n ≤ high then some (n, rest) else none

/-- A time of day; only what follows it matters. -/
def afterTime? (t : Text) : Option Text := do
  let (_, t) ← twoDigits? 0 23 t
  let t ← Text.after? ":" t
  let (_, t) ← twoDigits? 0 59 t
  let t ← Text.after? ":" t
  let (_, t) ← twoDigits? 0 59 t
  match t with
  | .scalar '.' :: rest =>
      match Text.spanDigits rest with
      | ([], _) => some t
      | (_, after) => some after
  | t => some t

/-- An offset from universal time, if there is one; only what follows matters. -/
def afterOffset (t : Text) : Text :=
  let numeric? (rest : Text) : Option Text := do
    let (_, t) ← twoDigits? 0 23 rest
    let t ← Text.after? ":" t
    let (_, t) ← twoDigits? 0 59 t
    some t
  match t with
  | .scalar 'Z' :: rest | .scalar 'z' :: rest => rest
  | .scalar '+' :: rest | .scalar '-' :: rest => (numeric? rest).getD t
  | t => t

/-- The days of a month. -/
def daysIn (year month : Nat) : Nat :=
  if month = 2 then
    if year % 4 = 0 ∧ (year % 100 ≠ 0 ∨ year % 400 = 0) then 29 else 28
  else if month = 4 ∨ month = 6 ∨ month = 9 ∨ month = 11 then 30
  else 31

/-- A year, a month and a day, and what follows them. -/
def calendarDate? (t : Text) : Option ((Nat × Nat × Nat) × Text) := do
  let (year, t) ← fixedDigits? 4 t
  let t ← Text.after? "-" t
  let (month, t) ← twoDigits? 1 12 t
  let t ← Text.after? "-" t
  let (day, t) ← twoDigits? 1 31 t
  some ((year, month, day), t)

/-- What follows the time after a date, if there is one. -/
def afterDateTime? (t : Text) : Option Text :=
  match t with
  | .scalar c :: rest =>
      if c = 'T' ∨ c = 't' ∨ c = ' ' then (afterTime? rest).map afterOffset else none
  | _ => none

/-- What was written before a rest of a text. -/
def written (t rest : Text) : Text :=
  t.take (t.length - rest.length)

/-- A date, a time, or both, if the text starts with one. -/
def moment? (t : Text) : Option (Reading Value) :=
  match calendarDate? t with
  | some ((year, month, day), afterDate) =>
      if year = 0 ∨ daysIn year month < day then some (stopAt t .badDate)
      else
        match afterDateTime? afterDate with
        | some after => some (.ok (.dateTime (written t after), after))
        | none => some (.ok (.date (written t afterDate), afterDate))
  | none => (afterTime? t).map fun after => .ok (.time (written t after), after)

end SecurityRules.Toml
