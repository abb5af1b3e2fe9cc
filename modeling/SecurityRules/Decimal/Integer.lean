import SecurityRules.Decimal.Numeral
import SecurityRules.Text.Blank
import SecurityRules.Text.Digit
import SecurityRules.Text.Quoted

/-!
# Integers typed into a text box

An integer may have a sign, digits of any script, and single underscores
between digits. Its digits are counted before anything else about it is
questioned except its underscores, so a long run of digits is refused for its
length whatever follows it.
-/

namespace SecurityRules

/-- Why a text is no integer. -/
inductive IntegerFault where
  | notInteger (t : Text)
  | tooManyDigits (count : Nat)
  deriving DecidableEq, Repr

/-- The text in question is shown in quotes, cut after 200 code points. -/
def IntegerFault.message : IntegerFault → Text
  | notInteger t => "invalid literal for int() with base 10: " ++ t.quoted.take 200
  | tooManyDigits count => tooManyDigitsMessage count

/-- What stands before a place among digits and underscores. -/
inductive DigitNeighbour where
  | nothing
  | digit
  | underscore
  deriving DecidableEq, Repr

/-- The values of the digits at the front of a text, with single underscores
between them dropped, and what follows. `none` if an underscore stands anywhere
but between two digits. -/
def digitGroups? (before : DigitNeighbour) : Text → Option (List Nat × Text)
  | [] => if before = .underscore then none else some ([], [])
  | c :: rest =>
      match c.digit? with
      | some d => (digitGroups? .digit rest).map fun (digits, after) => (d :: digits, after)
      | none =>
          if c = .scalar '_' then
            if before = .digit then digitGroups? .underscore rest else none
          else if before = .underscore then none
          else some ([], c :: rest)

/-- The number that digit values spell in base ten. -/
def ofDigitValues (digits : List Nat) : Nat :=
  digits.foldl (fun n d => n * 10 + d) 0

/-- A sign at the front of a text; whether it is a minus, and what follows. -/
def splitSign : Text → Bool × Text
  | .scalar '-' :: rest => (true, rest)
  | .scalar '+' :: rest => (false, rest)
  | t => (false, t)

/-- The integer that a text spells. -/
def Text.toInteger (t : Text) : Except IntegerFault Int :=
  let (negative, unsigned) := splitSign t
  match digitGroups? .nothing unsigned with
  | none => .error (.notInteger t)
  | some (digits, rest) =>
      if maxIntegerDigits < digits.length then .error (.tooManyDigits digits.length)
      else if digits.isEmpty || !rest.isEmpty then .error (.notInteger t)
      else .ok (signed negative (ofDigitValues digits))

end SecurityRules
