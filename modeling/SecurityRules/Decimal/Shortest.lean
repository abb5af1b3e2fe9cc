import SecurityRules.Decimal.Binary64
import SecurityRules.Text.CodePoint

/-!
# The shortest decimal

A finite number is written with the fewest digits that read back to it, and of
several such decimals the nearest. The digits are found by trying: with one
digit, two, up to seventeen, the two neighbours of the value on that decimal
grid are read back, and the first grid with a hit wins.

Decimals are laid out positionally while the decimal exponent is at least -4
and below 16, and always show a digit after the point; all others have an
exponent of at least two digits and a sign.
-/

namespace SecurityRules

/-- The decimal `0.d₁d₂… · 10 ^ point`. -/
structure Decimal where
  digits : List Char
  point : Int

namespace Binary64

/-- The least `k` with `r < 10 ^ k`, for a positive rational. -/
def decimalSize (r : Rat) : Int :=
  if 1 ≤ r then (Nat.toDigits 10 r.floor.toNat).length
  else 1 - (Nat.toDigits 10 (r.inv.ceil.toNat - 1)).length

/-- Of the two neighbours of `r` on the grid of `10 ^ exponent`, one that reads
back to `x`: the nearer, and at the same distance the even one. -/
def neighbour? (x : Binary64) (r : Rat) (exponent : Int) : Option Nat :=
  let low := (r / decimalValue 1 exponent).floor.toNat
  let below := r - decimalValue low exponent
  let above := decimalValue (low + 1) exponent - r
  let preferLow := below < above ∨ (below = above ∧ low % 2 = 0)
  let readsBack (n : Nat) : Bool := ofDecimal false n exponent = x
  if readsBack low ∧ (preferLow ∨ ¬ readsBack (low + 1)) then some low
  else if readsBack (low + 1) then some (low + 1)
  else none

/-- The fewest digits that read back, and the exponent of the last of them. If
seventeen digits are not enough, the exact value. -/
def shortest (mantissa : Nat) (exponent : Int) : Nat × Int :=
  let r := magnitude mantissa exponent
  let size := decimalSize r
  let found := (List.range 17).findSome? fun (i : Nat) =>
    let place := size - (i + 1)
    (neighbour? (.finite false mantissa exponent) r place).map (·, place)
  match found with
  | some answer => answer
  | none =>
      if 0 ≤ exponent then (mantissa <<< exponent.toNat, 0)
      else (mantissa * Nat.pow 5 (-exponent).toNat, exponent)

/-- A decimal without the zeros at its end. -/
def trimmed (digits : Nat) (exponent : Int) : Decimal :=
  let all := Nat.toDigits 10 digits
  { digits := (all.reverse.dropWhile (· = '0')).reverse
    point := all.length + exponent }

end Binary64

/-- The decimal written with its point in place. -/
def Decimal.positional (d : Decimal) : List Char :=
  if d.point ≤ 0 then
    ['0', '.'] ++ List.replicate (-d.point).toNat '0' ++ d.digits
  else if d.digits.length ≤ d.point.toNat then
    d.digits ++ List.replicate (d.point.toNat - d.digits.length) '0' ++ ['.', '0']
  else
    d.digits.take d.point.toNat ++ ['.'] ++ d.digits.drop d.point.toNat

/-- The decimal written with one digit before the point and an exponent. -/
def Decimal.scientific (d : Decimal) : List Char :=
  let power := d.point - 1
  let digits := Nat.toDigits 10 power.natAbs
  let mantissa := match d.digits with
    | first :: second :: rest => first :: '.' :: second :: rest
    | short => short
  mantissa ++ ['e', if power < 0 then '-' else '+']
    ++ List.replicate (2 - digits.length) '0' ++ digits

def Decimal.layout (d : Decimal) : List Char :=
  if -4 < d.point ∧ d.point ≤ 16 then d.positional else d.scientific

/-- The words for the numbers that have no digits. -/
structure FloatWords where
  nan : Text
  infinity : Text

/-- The text of a number. -/
def Binary64.text (words : FloatWords) : Binary64 → Text
  | .nan => words.nan
  | .infinity negative => (if negative then "-" else "") ++ words.infinity
  | .finite negative mantissa exponent =>
      let (digits, place) :=
        if mantissa = 0 then (0, 0) else Binary64.shortest mantissa exponent
      let written : List Char :=
        if digits = 0 then ['0', '.', '0'] else (Binary64.trimmed digits place).layout
      (if negative then "-" else "") ++ Text.ofChars written

end SecurityRules
