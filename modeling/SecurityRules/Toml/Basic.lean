import SecurityRules.Decimal.Numeral
import SecurityRules.Record
import SecurityRules.Stack
import SecurityRules.Text.Place
import SecurityRules.Text.Quoted

/-!
# TOML values and faults

Settings are written in TOML. Dates and times are recognised and kept as they
were written; nothing here computes with them.
-/

namespace SecurityRules.Toml

inductive Value where
  | string (s : Text)
  | int (n : Int)
  | float (x : Binary64)
  | bool (b : Bool)
  | dateTime (written : Text)
  | date (written : Text)
  | time (written : Text)
  | array (items : List Value)
  | table (entries : List (Text × Value))
  deriving Inhabited

/-- The entries of a table, in the order in which they were first written. -/
abbrev Table := Record Value

/-- A dotted key. -/
abbrev Key := List Text

/-- A key in a message: its parts in quotes. -/
def Key.quoted (key : Key) : Text :=
  match key with
  | [part] => "(" ++ part.quoted ++ ",)"
  | parts => "(" ++ Text.join ", " (parts.map Text.quoted) ++ ")"

/-- What is wrong with a document at some place. -/
inductive Complaint where
  | invalidStatement
  | unfinishedStatement
  | missing (delimiter : Text)
  | invalidCharacter (c : CodePoint)
  | illegalCharacter (c : CodePoint)
  | declaredTwice (key : Key)
  | overwrites
  | immutable (key : Key)
  | redefines (key : Key)
  | unfinishedTable
  | unfinishedArrayOfTables
  | missingEquals
  | badKeyStart
  | unclosedArray
  | unclosedInlineTable
  | duplicateKey (part : Text)
  | strayBackslash
  | badHex
  | notCharacter
  | unterminatedString
  | badDate
  | badValue

def Complaint.words : Complaint → Text
  | invalidStatement => "Invalid statement"
  | unfinishedStatement => "Expected newline or end of document after a statement"
  | missing delimiter => "Expected " ++ delimiter.quoted
  | invalidCharacter c => "Found invalid character " ++ Text.quoted [c]
  | illegalCharacter c => "Illegal character " ++ Text.quoted [c]
  | declaredTwice key => "Cannot declare " ++ key.quoted ++ " twice"
  | overwrites => "Cannot overwrite a value"
  | immutable key => "Cannot mutate immutable namespace " ++ key.quoted
  | redefines key => "Cannot redefine namespace " ++ key.quoted
  | unfinishedTable => "Expected ']' at the end of a table declaration"
  | unfinishedArrayOfTables => "Expected ']]' at the end of an array declaration"
  | missingEquals => "Expected '=' after a key in a key/value pair"
  | badKeyStart => "Invalid initial character for a key part"
  | unclosedArray => "Unclosed array"
  | unclosedInlineTable => "Unclosed inline table"
  | duplicateKey part => "Duplicate inline table key " ++ part.quoted
  | strayBackslash => "Unescaped '\\' in a string"
  | badHex => "Invalid hex value"
  | notCharacter => "Escaped character is not a Unicode scalar value"
  | unterminatedString => "Unterminated string"
  | badDate => "Invalid date or datetime"
  | badValue => "Invalid value"

/-- Why reading stopped. A place is given by what is left of the document. -/
inductive Stop where
  | complain (complaint : Complaint) (left : Nat)
  | tooManyDigits (count : Nat)

/-- Why a document was not read. A complaint without a place is about the end. -/
inductive Fault where
  | malformed (complaint : Complaint) (place : Option Place)
  | tooManyDigits (count : Nat)
  /-- The values of the document nest too deep to be read. -/
  | tooDeep

def Fault.message : Fault → Text
  | malformed complaint place =>
      let where_ : Text := match place with
        | none => "end of document"
        | some place =>
            "line " ++ Text.ofNat place.line ++ ", column " ++ Text.ofNat place.column
      complaint.words ++ " (at " ++ where_ ++ ")"
  | tooManyDigits count => tooManyDigitsMessage count
  | tooDeep => tooDeepMessage

/-- The fault of a document in which reading stopped. -/
def Stop.fault (document : Text) : Stop → Fault
  | complain complaint 0 => .malformed complaint none
  | complain complaint left =>
      .malformed complaint (some (document.placeOf (document.length - left)))
  | tooManyDigits count => .tooManyDigits count

/-- The result of reading a part of a document: what was read, and the rest. -/
abbrev Reading (α : Type) := Except Stop (α × Text)

/-- Stops at a text that is left. -/
def stopAt {α : Type} (left : Text) (complaint : Complaint) : Except Stop α :=
  .error (.complain complaint left.length)

end SecurityRules.Toml
