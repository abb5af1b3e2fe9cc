import SecurityRules.Text.CharacterName.AToB
import SecurityRules.Text.CharacterName.CToD
import SecurityRules.Text.CharacterName.EToH
import SecurityRules.Text.CharacterName.IToL
import SecurityRules.Text.CharacterName.MToO
import SecurityRules.Text.CharacterName.PToS
import SecurityRules.Text.CharacterName.TToZ

/-!
# Names of characters

A character has a name, and some have more than one. Most names are listed in
outlines. Those of ideographs end in the number of the character, and those of
Hangul syllables are put together from the names of their sounds.

The case of a listed name does not matter. That of a unified ideograph or of a
syllable does.
-/

namespace SecurityRules.CharacterName

/-- The listed names. -/
def outlines : List String :=
  [namesFromAToB, namesFromCToD, namesFromEToH, namesFromIToL, namesFromMToO, namesFromPToS,
    namesFromTToZ]

/-- The name that is being read in an outline after one more word: a word that
starts a name keeps some of the words before it. An empty word says nothing. -/
def extend (reading : List String) (word : String) : List String :=
  match word.toList with
  | c :: rest =>
      if c.isLower then reading.take (c.toNat - 'a'.toNat) ++ [String.ofList rest]
      else reading ++ [word]
  | [] => reading

/-- Whether a word of an outline starts a name. -/
def startsName (word : String) : Bool :=
  word.toList.head?.any Char.isLower

/-- Whether a name stands among the words of an outline, of which those of the
name that is being read are known already. -/
def standsIn (name : List String) : List String → List String → Bool
  | reading, [] => reading == name
  | reading, word :: rest =>
      (startsName word && reading == name) || standsIn name (extend reading word) rest

/-- The words of an outline, with an empty one for each further blank. -/
def outlineWords (outline : String) : List String :=
  (outline.splitOn "\n").flatMap fun line => line.splitOn " "

/-- Whether a name is listed, in whatever case. -/
def isListed (name : List Char) : Bool :=
  let words := (String.ofList (name.map Char.toUpper)).splitOn " "
  outlines.any fun outline => standsIn words [] (outlineWords outline)

/-- The beginnings of names that end in the number of the character, in whatever
case, with the numbers. -/
def numbered : List (String × List (Nat × Nat)) :=
  [("CJK COMPATIBILITY IDEOGRAPH-", [(0xF900, 0xFA6D), (0xFA70, 0xFAD9), (0x2F800, 0x2FA1D)]),
    ("KHITAN SMALL SCRIPT CHARACTER-", [(0x18B00, 0x18CD5)]),
    ("NUSHU CHARACTER-", [(0x1B170, 0x1B2FB)])]

/-- The numbers of the unified ideographs. -/
def unifiedIdeographs : List (Nat × Nat) :=
  [(0x3400, 0x4DBF), (0x4E00, 0x9FFF), (0x20000, 0x2A6DF), (0x2A700, 0x2B738),
    (0x2B740, 0x2B81D), (0x2B820, 0x2CEA1), (0x2CEB0, 0x2EBE0), (0x30000, 0x3134A)]

/-- The value of a number in upper-case hexadecimal digits. -/
def number? (digits : List Char) : Option Nat :=
  digits.foldlM (fun n c =>
    if c.isDigit then some (16 * n + (c.toNat - '0'.toNat))
    else if 'A' ≤ c && c ≤ 'F' then some (16 * n + (c.toNat - 'A'.toNat + 10))
    else none) 0

def isAmong (ranges : List (Nat × Nat)) (n : Nat) : Bool :=
  ranges.any fun (first, last) => first ≤ n && n ≤ last

/-- Whether a name ends in the number of its character, which is written with
four digits, or with five where it needs them. -/
def isNumbered (name : List Char) : Bool :=
  let upper := name.map Char.toUpper
  numbered.any fun (beginning, ranges) =>
    let digits := upper.drop beginning.length
    beginning.toList.isPrefixOf upper && digits.head? ≠ some '0' &&
      (number? digits).any (isAmong ranges)

/-- How the name of a unified ideograph starts. -/
def ideographBeginning : List Char := "CJK UNIFIED IDEOGRAPH-".toList

/-- Whether a name is that of a unified ideograph, whose number has four or five
digits. -/
def isIdeograph (name : List Char) : Bool :=
  let digits := name.drop ideographBeginning.length
  ideographBeginning.isPrefixOf name && (digits.length = 4 || digits.length = 5) &&
    (number? digits).any (isAmong unifiedIdeographs)

/-- How the name of a Hangul syllable starts. -/
def syllableBeginning : List Char := "HANGUL SYLLABLE ".toList

/-- The consonants that a syllable may start with. -/
def leadingSounds : List String :=
  ["G", "GG", "N", "D", "DD", "R", "M", "B", "BB", "S", "SS", "", "J", "JJ", "C", "K", "T", "P",
    "H"]

def vowelSounds : List String :=
  ["A", "AE", "YA", "YAE", "EO", "E", "YEO", "YE", "O", "WA", "WAE", "OE", "YO", "U", "WEO", "WE",
    "WI", "YU", "EU", "YI", "I"]

/-- The consonants that a syllable may end with. -/
def trailingSounds : List String :=
  ["", "G", "GG", "GS", "N", "NJ", "NH", "D", "L", "LG", "LM", "LB", "LS", "LT", "LP", "LH", "M",
    "B", "BS", "S", "SS", "NG", "J", "C", "K", "T", "P", "H"]

/-- Whether a name is that of a Hangul syllable. -/
def isSyllable (name : List Char) : Bool :=
  let sounds := name.drop syllableBeginning.length
  syllableBeginning.isPrefixOf name &&
    leadingSounds.any fun l => vowelSounds.any fun v => trailingSounds.any fun t =>
      (l ++ v ++ t).toList == sounds

end SecurityRules.CharacterName

namespace SecurityRules

open CharacterName

/-- Whether a name is the name of a character. -/
def isCharacterName (name : List Char) : Bool :=
  isListed name || isNumbered name || isIdeograph name || isSyllable name

end SecurityRules
