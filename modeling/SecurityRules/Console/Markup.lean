import SecurityRules.Console.Basic
import SecurityRules.Console.Handler
import SecurityRules.Console.StyledText

/-!
# Console markup

Text for the console may hold tags in brackets that switch styles on and off,
or name a handler. A closing tag has to have something to close. Backslashes in
front of a tag escape it.
-/

namespace SecurityRules.Markup

/-- A part of a marked-up text: plain, or a tag with the place of its bracket. -/
inductive Piece where
  | plain (t : Text)
  | tag (position : Nat) (inside : Text)

/-- Whether a tag may start with a character. -/
def startsTag : CodePoint → Bool
  | .scalar c => ('a' ≤ c && c ≤ 'z') || c = '#' || c = '/' || c = '@'
  | .surrogate _ => false

/-- The inside of a tag up to its closing bracket. -/
def upToBracket? : Text → Option Text
  | [] => none
  | c :: rest =>
      if c = .scalar ']' then some []
      else if c = .scalar '[' then none
      else (upToBracket? rest).map (c :: ·)

/-- The inside of the tag that follows an opening bracket, if one does. -/
def tag? : Text → Option Text
  | [] => none
  | c :: rest => if startsTag c then (upToBracket? rest).map (c :: ·) else none

def backslashes (n : Nat) : Text :=
  List.replicate n (.scalar '\\')

/-- A plain piece, unless it is empty. -/
def plainPiece (t : Text) : List Piece :=
  if t.isEmpty then [] else [.plain t]

/-- The pieces of a text. `plain` is what has been read since the last tag,
`slashes` counts the backslashes right before this place, and `skip` code
points belong to a tag that is already taken. -/
def piecesFrom (position slashes skip : Nat) (plain : Text) : Text → List Piece
  | [] => plainPiece (plain ++ backslashes slashes)
  | c :: rest =>
      match skip with
      | skip + 1 => piecesFrom (position + 1) slashes skip plain rest
      | 0 =>
          if c = .scalar '\\' then piecesFrom (position + 1) (slashes + 1) 0 plain rest
          else
            match (if c = .scalar '[' then tag? rest else none) with
            | some inside =>
                let piece :=
                  if slashes % 2 = 1 then .plain (.scalar '[' :: inside ++ [.scalar ']'])
                  else .tag position inside
                plainPiece plain ++ plainPiece (backslashes (slashes / 2)) ++ piece
                  :: piecesFrom (position + 1) 0 (inside.length + 1) [] rest
            | none => piecesFrom (position + 1) 0 0 (plain ++ backslashes slashes ++ [c]) rest

def pieces (t : Text) : List Piece :=
  piecesFrom 0 0 0 [] t

/-- A plain piece without the backslashes before its brackets. -/
def shown : Text → Text
  | .scalar '\\' :: .scalar '[' :: rest => .scalar '[' :: shown rest
  | c :: rest => c :: shown rest
  | [] => []

/-- Why a marked-up text cannot be shown. -/
inductive Fault where
  | nothingToClose (position : Nat)
  | notOpen (inside : Text) (position : Nat)
  /-- A number in the name of a style cannot be read. -/
  | unreadNumber (fault : IntegerFault)
  | handler (fault : HandlerFault)

def Fault.message : Fault → Text
  | nothingToClose position =>
      "closing tag '[/]' at position " ++ Text.ofNat position ++ " has nothing to close"
  | notOpen inside position =>
      "closing tag '[" ++ inside ++ "]' at position " ++ Text.ofNat position
        ++ " doesn't match any open tag"
  | unreadNumber fault => fault.message
  | handler fault => fault.message

/-- The name of a tag, and the parameters after an equals sign. -/
def splitTag (inside : Text) : Text × Option Text :=
  match inside.dropWhile (· ≠ .scalar '=') with
  | [] => (inside, none)
  | _ :: parameters => (inside.takeWhile (· ≠ .scalar '='), some parameters)

/-- The normal name of a style in a tag. -/
def normalName (name : Text) : Except Fault Text :=
  match Style.normalName name with
  | .ok name => .ok name
  | .error fault => .error (.unreadNumber fault)

/-- A tag that has been opened: where, and what it says. -/
structure OpenTag where
  start : Nat
  name : Text
  parameters : Option Text
  deriving DecidableEq, Repr

namespace OpenTag

/-- The words that name the style of a tag: its parameters follow its name. -/
def style (tag : OpenTag) : Text :=
  match tag.parameters with
  | none => tag.name
  | some parameters => tag.name ++ " " ++ parameters

/-- The span of a tag that is closed. A handler has no style, but its parameters
are looked at now. -/
def close (stop : Nat) (tag : OpenTag) : Except Fault Span :=
  let span (style : Text) : Span := { start := tag.start, stop, style }
  if tag.name.head? = some (.scalar '@') then
    match Handler.fault? (tag.parameters.getD []) with
    | some fault => .error (.handler fault)
    | none => .ok (span [])
  else .ok (span tag.style)

end OpenTag

/-- What has been read of a marked-up text: the text so far, the open tags and
the spans of the closed ones, the last one first. -/
structure Progress where
  text : Text := []
  opened : List OpenTag := []
  spans : List Span := []

namespace Progress

/-- Closes the open tag that was opened last among those that satisfy a
condition. -/
def close (condition : OpenTag → Bool) (noTag : Fault) (p : Progress) : Except Fault Progress :=
  match p.opened.find? condition with
  | none => .error noTag
  | some tag =>
      (tag.close p.text.length).map fun span =>
        { p with opened := p.opened.erase tag, spans := span :: p.spans }

/-- Takes a tag into account. -/
def tag (position : Nat) (inside : Text) (p : Progress) : Except Fault Progress := do
  let (name, parameters) := splitTag inside
  match name with
  | .scalar '/' :: closing =>
      if (Text.trim closing).isEmpty then p.close (fun _ => true) (.nothingToClose position)
      else
        let name ← normalName (Text.trim closing)
        p.close (·.name = name) (.notOpen inside position)
  | name =>
      let name ← normalName name
      return { p with opened := ⟨p.text.length, name, parameters⟩ :: p.opened }

/-- Reads pieces one after another. Pictures are looked for in each piece. -/
def read (console : Console) (p : Progress) : List Piece → Except Fault Progress
  | [] => .ok p
  | .plain t :: rest => read console { p with text := p.text ++ console.clean (shown t) } rest
  | .tag position inside :: rest =>
      match p.tag position inside with
      | .error fault => .error fault
      | .ok p => read console p rest

/-- The styled text in the end. Tags that are still open reach to its end. -/
def result (p : Progress) : StyledText :=
  let stop := p.text.length
  let spans := p.opened.foldl (fun spans tag => ⟨tag.start, stop, tag.style⟩ :: spans) p.spans
  { text := p.text, spans := spans.mergeSort fun a b => a.start ≤ b.start }

end Progress

/-- The styled text that a marked-up text stands for on a console. -/
def render (console : Console) (t : Text) : Except Fault StyledText :=
  (Progress.read console {} (pieces t)).map Progress.result

/-- Escapes each tag of a text. Arguments as for `piecesFrom`. -/
def escapeFrom (slashes skip : Nat) : Text → Text
  | [] => backslashes slashes
  | c :: rest =>
      match skip with
      | skip + 1 => c :: escapeFrom slashes skip rest
      | 0 =>
          if c = .scalar '\\' then escapeFrom (slashes + 1) 0 rest
          else
            match (if c = .scalar '[' then tag? rest else none) with
            | some inside =>
                backslashes (2 * slashes + 1) ++ c :: escapeFrom 0 (inside.length + 1) rest
            | none => backslashes slashes ++ c :: escapeFrom 0 0 rest

/-- Whether exactly one backslash ends a text. -/
def endsInOneBackslash (t : Text) : Bool :=
  match t.reverse with
  | .scalar '\\' :: .scalar '\\' :: _ => false
  | .scalar '\\' :: _ => true
  | _ => false

/-- A text that is meant to be shown as it is. A single backslash at its end is
doubled, so that it does not escape a tag that follows. -/
def escape (t : Text) : Text :=
  let escaped := escapeFrom 0 0 t
  if endsInOneBackslash escaped then escaped ++ "\\" else escaped

end SecurityRules.Markup
