import SecurityRules.Json.Basic
import SecurityRules.Json.Token
import SecurityRules.Text.Place

/-!
# Reading JSON

The tokens of a document drive a small machine. Its stack holds the arrays and
objects that are open, and its phase says what may come next. One token is one
step, so reading is a fold over the tokens, and a value read in the middle of a
document leaves the stack as it found it.

The first token that does not fit ends the run with a complaint about its
place. An integer of too many digits ends it as well, and that is a fault of
its own.
-/

namespace SecurityRules.Json

/-- What a document lacks at some place, or has beyond its end. -/
inductive Complaint where
  | byteOrderMark
  | value
  | propertyName
  | colon
  | comma
  | extraData
  | string (fault : StringFault)
  deriving DecidableEq, Repr

def Complaint.words : Complaint → Text
  | byteOrderMark => "Unexpected UTF-8 BOM (decode using utf-8-sig)"
  | value => "Expecting value"
  | propertyName => "Expecting property name enclosed in double quotes"
  | colon => "Expecting ':' delimiter"
  | comma => "Expecting ',' delimiter"
  | extraData => "Extra data"
  | string .unterminated => "Unterminated string starting at"
  | string .controlCharacter => "Invalid control character at"
  | string .badEscape => "Invalid \\escape"
  | string .badUnicodeEscape => "Invalid \\uXXXX escape"

/-- Why a document was not read. -/
inductive ReadFault where
  | malformed (complaint : Complaint) (place : Place)
  | tooManyDigits (count : Nat)
  deriving DecidableEq, Repr

def ReadFault.message : ReadFault → Text
  | malformed complaint place =>
      complaint.words ++ ": line " ++ Text.ofNat place.line ++ " column "
        ++ Text.ofNat place.column ++ " (char " ++ Text.ofNat place.offset ++ ")"
  | tooManyDigits count => tooManyDigitsMessage count

/-- Why the machine stopped. A place is given by what is left of the document. -/
inductive Stop where
  | complain (complaint : Complaint) (left : Nat)
  | tooManyDigits (count : Nat)

/-- An open array with its items so far, the last one first; or an open object
with its entries so far and the key whose value is being read. -/
inductive Frame where
  | array (items : List Json)
  | object (entries : Record Json) (key : Text)

/-- What may come next. -/
inductive Phase where
  | value
  | firstItem
  | firstKey
  | key (entries : Record Json)
  | colon (entries : Record Json) (key : Text)
  | after (v : Json)

/-- The value of a numeral. -/
def ofNumeral (n : Numeral) : Except Stop Json :=
  match n.toInt? with
  | some i =>
      if n.whole.length ≤ maxIntegerDigits then .ok (.int i)
      else .error (.tooManyDigits n.whole.length)
  | none => .ok (.float n.toBinary64)

/-- The phase after a token that has to start a value. -/
def beginValue (t : Token) : Except Stop Phase :=
  match t.lexeme with
  | .openBracket => .ok .firstItem
  | .openBrace => .ok .firstKey
  | .null => .ok (.after .null)
  | .bool b => .ok (.after (.bool b))
  | .nan => .ok (.after (.float .nan))
  | .infinity negative => .ok (.after (.float (.infinity negative)))
  | .number n => (ofNumeral n).map .after
  | .string s => .ok (.after (.string s))
  | .brokenString fault left => .error (.complain (.string fault) left)
  | _ => .error (.complain .value t.left)

/-- The phase after a token that has to be a key. -/
def beginEntry (entries : Record Json) (t : Token) : Except Stop Phase :=
  match t.lexeme with
  | .string key => .ok (.colon entries key)
  | .brokenString fault left => .error (.complain (.string fault) left)
  | _ => .error (.complain .propertyName t.left)

/-- What a token does after a complete value. -/
def step (v : Json) : List Frame → Token → Except Stop (List Frame × Phase)
  | [], t => .error (.complain .extraData t.left)
  | .array items :: below, t =>
      match t.lexeme with
      | .comma => .ok (.array (v :: items) :: below, .value)
      | .closeBracket => .ok (below, .after (.array (v :: items).reverse))
      | _ => .error (.complain .comma t.left)
  | .object entries key :: below, t =>
      match t.lexeme with
      | .comma => .ok (below, .key (entries.insert key v))
      | .closeBrace => .ok (below, .after (.object (entries.insert key v)))
      | _ => .error (.complain .comma t.left)

/-- What a token does to the machine. -/
def advance (stack : List Frame) (phase : Phase) (t : Token) :
    Except Stop (List Frame × Phase) :=
  match phase with
  | .value => (beginValue t).map (stack, ·)
  | .firstItem =>
      match t.lexeme with
      | .closeBracket => .ok (stack, .after (.array []))
      | _ => (beginValue t).map (.array [] :: stack, ·)
  | .firstKey =>
      match t.lexeme with
      | .closeBrace => .ok (stack, .after (.object []))
      | _ => (beginEntry [] t).map (stack, ·)
  | .key entries => (beginEntry entries t).map (stack, ·)
  | .colon entries key =>
      match t.lexeme with
      | .colon => .ok (.object entries key :: stack, .value)
      | _ => .error (.complain .colon t.left)
  | .after v => step v stack t

/-- What is missing when the document ends. -/
def finish : List Frame → Phase → Except Stop Json
  | [], .after v => .ok v
  | _ :: _, .after _ => .error (.complain .comma 0)
  | _, .value => .error (.complain .value 0)
  | _, .firstItem => .error (.complain .value 0)
  | _, .firstKey => .error (.complain .propertyName 0)
  | _, .key _ => .error (.complain .propertyName 0)
  | _, .colon _ _ => .error (.complain .colon 0)

/-- Runs the machine on tokens. -/
def run (stack : List Frame) (phase : Phase) : List Token → Except Stop Json
  | [] => finish stack phase
  | t :: ts =>
      match advance stack phase t with
      | .ok (stack, phase) => run stack phase ts
      | .error stop => .error stop

/-- Reads a document that holds one value. -/
def read (t : Text) : Except ReadFault Json :=
  match t with
  | .scalar '\uFEFF' :: _ => .error (.malformed .byteOrderMark (t.placeOf 0))
  | _ =>
      match run [] .value (tokens t) with
      | .ok v => .ok v
      | .error (.complain complaint left) =>
          .error (.malformed complaint (t.placeOf (t.length - left)))
      | .error (.tooManyDigits count) => .error (.tooManyDigits count)

end SecurityRules.Json
