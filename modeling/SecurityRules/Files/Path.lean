import SecurityRules.Text.LineBreak
import SecurityRules.Text.Quoted
import SecurityRules.Text.Utf8

/-!
# Paths

A path is a root and the names below it. Written paths are tidied without
asking what they lead to: empty names and `.` go, `..` stays.

On disk a path is a sequence of bytes, which may not be too long. A lone
surrogate half from U+DC80 to U+DCFF stands for a byte that is no character.
-/

namespace SecurityRules

/-- A path with its root (empty for a relative path) and its names. -/
structure Path where
  root : Text
  parts : List Text
  deriving DecidableEq, Repr

namespace Path

/-- The root of a written path. Two slashes at its start are a root of their
own, any other number is the same as one. -/
def rootOf (written : Text) : Text :=
  match (written.takeWhile (· = .scalar '/')).length with
  | 0 => []
  | 2 => "//"
  | _ => "/"

def ofText (written : Text) : Path :=
  let isName (part : Text) : Bool := !part.isEmpty && part ≠ Text.ofString "."
  { root := rootOf written, parts := (written.splitAt '/').filter isName }

def text (p : Path) : Text :=
  match p.root, p.parts with
  | [], [] => "."
  | root, parts => root ++ Text.join "/" parts

/-- The number of bytes of a character or half on disk. -/
def byteCount : CodePoint → Nat
  | .scalar c => (Utf8.encodeChar c).length
  | .surrogate _ => 1

/-- The number of bytes of a text on disk. -/
def size (t : Text) : Nat :=
  (t.map byteCount).foldl (· + ·) 0

/-- The most bytes that a name may have. -/
def maxNameSize : Nat := 255

/-- The most bytes that a whole path may have. -/
def maxSize : Nat := 4095

/-- The first halves in a text that stand for no byte; `start` code points are
behind us. -/
def strayHalves? (start : Nat) : Text → Option Utf8.LoneHalves
  | [] => none
  | .scalar _ :: rest => strayHalves? (start + 1) rest
  | .surrogate half :: rest =>
      if 0x480 ≤ half.val ∧ half.val < 0x500 then strayHalves? (start + 1) rest
      else some ⟨start, .surrogate half, (rest.takeWhile CodePoint.isSurrogate).length + 1⟩

end Path

/-- Why a path leads to nothing. -/
inductive PathFault where
  | missing
  | notDirectory
  | tooLong
  deriving DecidableEq, Repr

def PathFault.message (path : Path) : PathFault → Text
  | missing => "[Errno 2] No such file or directory: " ++ path.text.quoted
  | notDirectory => "[Errno 20] Not a directory: " ++ path.text.quoted
  | tooLong => "[Errno 36] File name too long: " ++ path.text.quoted

end SecurityRules
