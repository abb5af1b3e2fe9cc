import SecurityRules.Decimal.Integer
import SecurityRules.Record
import SecurityRules.Text.LineBreak
import SecurityRules.Text.LowerCase

/-!
# Console styles

A style is named by words: attributes, a colour, a colour behind it, a link. Two
names of one style are the same, so each style has a normal name: its
attributes in a fixed order, then the rest. Words that name no style stand for
themselves.

A colour may be given by three numbers. Where one of them cannot be read, it is
not even clear whether the words name a style.
-/

namespace SecurityRules

structure Style where
  /-- The attributes that are switched on or off. -/
  attributes : Record Bool := []
  colour : Option Text := none
  background : Option Text := none
  link : Option Text := none

namespace Style

/-- The attributes in the order of normal names. -/
def attributeOrder : List Text :=
  ["bold", "dim", "italic", "underline", "blink", "blink2", "reverse", "conceal", "strike",
   "underline2", "frame", "encircle", "overline"]

/-- Attributes that have a short name. -/
def shortNames : Record Text :=
  [("b", "bold"), ("d", "dim"), ("i", "italic"), ("u", "underline"), ("r", "reverse"),
   ("c", "conceal"), ("s", "strike"), ("uu", "underline2"), ("o", "overline")]

/-- The attribute that a word names. -/
def attribute? (word : Text) : Option Text :=
  if attributeOrder.contains word then some word else shortNames.get? word

/-- The names of the colours that terminals number. -/
def colourNames : List Text :=
  List.map Text.ofString [
   "default", "black", "red", "green", "yellow", "blue", "magenta", "cyan", "white", "bright_black",
   "bright_red", "bright_green", "bright_yellow", "bright_blue",
   "bright_magenta", "bright_cyan", "bright_white", "navy_blue", "dark_blue", "blue3", "blue1",
   "dark_green", "deep_sky_blue4", "dodger_blue3", "dodger_blue2", "green4", "spring_green4",
   "turquoise4", "deep_sky_blue3", "dodger_blue1", "green3", "spring_green3", "dark_cyan",
   "light_sea_green", "deep_sky_blue2", "deep_sky_blue1", "spring_green2", "cyan3",
   "dark_turquoise", "turquoise2", "green1", "spring_green1", "medium_spring_green", "cyan2",
   "cyan1", "dark_red", "deep_pink4", "purple4", "purple3", "blue_violet", "orange4",
   "medium_purple4", "slate_blue3", "royal_blue1", "chartreuse4", "dark_sea_green4",
   "pale_turquoise4", "steel_blue", "steel_blue3", "cornflower_blue", "chartreuse3",
   "cadet_blue", "sky_blue3", "steel_blue1", "pale_green3", "sea_green3", "aquamarine3",
   "medium_turquoise", "chartreuse2", "sea_green2", "sea_green1", "aquamarine1",
   "dark_slate_gray2", "dark_magenta", "dark_violet", "purple", "light_pink4", "plum4",
   "medium_purple3", "slate_blue1", "yellow4", "wheat4", "light_slate_grey",
   "light_slate_gray", "medium_purple", "light_slate_blue", "dark_olive_green3",
   "dark_sea_green", "light_sky_blue3", "sky_blue2", "dark_sea_green3", "dark_slate_gray3",
   "sky_blue1", "chartreuse1", "light_green", "pale_green1", "dark_slate_gray1", "red3",
   "medium_violet_red", "magenta3", "dark_orange3", "indian_red", "hot_pink3",
   "medium_orchid3", "medium_orchid", "medium_purple2", "dark_goldenrod", "light_salmon3",
   "rosy_brown", "medium_purple1", "gold3", "dark_khaki", "navajo_white3",
   "light_steel_blue3", "light_steel_blue", "yellow3", "dark_sea_green2", "light_cyan3",
   "light_sky_blue1", "green_yellow", "dark_olive_green2", "dark_sea_green1",
   "pale_turquoise1", "deep_pink3", "magenta2", "hot_pink2", "orchid", "medium_orchid1",
   "orange3", "light_pink3", "pink3", "plum3", "violet", "light_goldenrod3", "tan",
   "misty_rose3", "thistle3", "plum2", "khaki3", "light_goldenrod2", "light_yellow3",
   "light_steel_blue1", "yellow2", "dark_olive_green1", "honeydew2", "light_cyan1", "red1",
   "deep_pink2", "deep_pink1", "magenta1", "orange_red1", "indian_red1", "hot_pink",
   "dark_orange", "salmon1", "light_coral", "pale_violet_red1", "orchid2", "orchid1",
   "orange1", "sandy_brown", "light_salmon1", "light_pink1", "pink1", "plum1", "gold1",
   "navajo_white1", "misty_rose1", "thistle1", "yellow1", "light_goldenrod1", "khaki1",
   "wheat1", "cornsilk1"]

/-- The percentages of the named greys. -/
def greys : List Nat :=
  [0, 3, 7, 11, 15, 19, 23, 27, 30, 35, 37, 39, 42, 46, 50, 53, 54, 58, 62, 63, 66, 69, 70, 74,
   78, 82, 84, 85, 89, 93, 100]

def isHexDigit : CodePoint → Bool
  | .scalar c => c.isDigit || ('a' ≤ c && c ≤ 'f')
  | .surrogate _ => false

/-- The largest number of a colour, or of a part of one. -/
def maxLevel : Nat := 255

/-- Whether a text is the number of a colour, in up to three ASCII digits. -/
def isColourNumber (digits : Text) : Bool :=
  let values := digits.filterMap fun c => if c.toNat < 0x80 then c.digit? else none
  0 < digits.length && digits.length ≤ 3 && values.length = digits.length
    && ofDigitValues values ≤ maxLevel

/-- Whether a text is made of three numbers of at most 255. -/
def areLevels (t : Text) : Except IntegerFault Bool :=
  if t.isEmpty || !t.all fun c => c.digit?.isSome || c = .scalar ',' then .ok false
  else
    match t.splitAt ',' with
    | [red, green, blue] => do
        let levels ← [red, green, blue].mapM Text.toInteger
        return levels.all (· ≤ maxLevel)
    | _ => .ok false

/-- The text between an opening and a closing parenthesis. -/
def enclosed? (opening t : Text) : Option Text := do
  let rest ← opening.after? t
  if rest.getLast? = some (.scalar ')') then some rest.dropLast else none

/-- Whether a word in lower case names a colour. -/
def isColour (word : Text) : Except IntegerFault Bool :=
  match enclosed? "rgb(" word with
  | some levels => areLevels levels
  | none =>
      .ok (colourNames.contains word
        || greys.any (fun n => word = Text.ofString "grey" ++ Text.ofNat n
          || word = Text.ofString "gray" ++ Text.ofNat n)
        || (Text.after? "#" word).any (fun digits => digits.length = 6 && digits.all isHexDigit)
        || (enclosed? "color(" word).any isColourNumber)

/-- The words of a text, cut at blanks. -/
def words (t : Text) : List Text :=
  (t.splitOnP CodePoint.isBlank).filter (!·.isEmpty)

/-- The style that words name, if each of them has a meaning. -/
def ofWords (style : Style) : List Text → Except IntegerFault (Option Style)
  | [] => .ok (some style)
  | word :: rest =>
      let small := word.lower
      if small = Text.ofString "on" then
        match rest with
        | colour :: rest => do
            if ← isColour (Text.lower colour) then
              ofWords { style with background := some (Text.lower colour) } rest
            else return none
        | [] => .ok none
      else if small = Text.ofString "not" then
        match rest with
        | name :: rest =>
            match attribute? name with
            | some name =>
                ofWords { style with attributes := style.attributes.insert name false } rest
            | none => .ok none
        | [] => .ok none
      else if small = Text.ofString "link" then
        match rest with
        | target :: rest => ofWords { style with link := some target } rest
        | [] => .ok none
      else
        match attribute? small with
        | some name => ofWords { style with attributes := style.attributes.insert name true } rest
        | none => do
            if ← isColour small then ofWords { style with colour := some small } rest
            else return none

/-- The style that a text names. The word `none` alone names the style that
changes nothing. -/
def ofText (t : Text) : Except IntegerFault (Option Style) :=
  if t.trim = Text.ofString "none" then .ok (some {}) else ofWords {} (words t)

/-- The normal name of a style. -/
def name (style : Style) : Text :=
  let attributes := attributeOrder.flatMap fun (attributeName : Text) =>
    match style.attributes.get? attributeName with
    | some true => [attributeName]
    | some false => ["not", attributeName]
    | none => []
  let after (word : List Text) : Option Text → List Text
    | some value => word ++ [value]
    | none => []
  let all := attributes ++ after [] style.colour ++ after ["on"] style.background
    ++ after ["link"] style.link
  if all.isEmpty then "none" else Text.join " " all

/-- The normal form of a name. -/
def normalName (t : Text) : Except IntegerFault Text :=
  (ofText t).map fun
    | some style => style.name
    | none => t.trim.lower

end Style

end SecurityRules
