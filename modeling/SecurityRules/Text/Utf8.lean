import SecurityRules.Text.CodePoint

/-!
# Bytes and characters

Files hold bytes. Reading them as UTF-8 either gives characters or stops at the
first ill-formed sequence, which is reported with its place and its cause.
Writing cannot fail on characters; a lone surrogate half has no bytes.
-/

namespace SecurityRules

/-- The bytes of a file. -/
abbrev Bytes := List UInt8

namespace Utf8

/-- What is wrong with a sequence of bytes. -/
inductive Cause where
  | badStart
  | badContinuation
  | truncated
  deriving DecidableEq, Repr

/-- The first ill-formed sequence of some bytes: where it starts, its first
byte, and how many bytes belong to it. -/
structure Fault where
  start : Nat
  byte : UInt8
  size : Nat
  cause : Cause
  deriving DecidableEq, Repr

def Cause.words : Cause → Text
  | badStart => "invalid start byte"
  | badContinuation => "invalid continuation byte"
  | truncated => "unexpected end of data"

def Fault.message (fault : Fault) : Text :=
  let place : Text :=
    if fault.size = 1 then
      "byte 0x" ++ Text.ofHex 2 fault.byte.toNat ++ " in position " ++ Text.ofNat fault.start
    else
      "bytes in position " ++ Text.ofNat fault.start ++ "-"
        ++ Text.ofNat (fault.start + fault.size - 1)
  "'utf-8' codec can't decode " ++ place ++ ": " ++ fault.cause.words

/-- What may follow the first byte of a sequence: the closed ranges of the
bytes after it. `none` for a byte that starts no sequence. -/
def tailRanges? (lead : UInt8) : Option (List (UInt8 × UInt8)) :=
  if lead < 0x80 then some []
  else if lead < 0xC2 then none
  else if lead < 0xE0 then some [(0x80, 0xBF)]
  else if lead = 0xE0 then some [(0xA0, 0xBF), (0x80, 0xBF)]
  else if lead = 0xED then some [(0x80, 0x9F), (0x80, 0xBF)]
  else if lead < 0xF0 then some [(0x80, 0xBF), (0x80, 0xBF)]
  else if lead = 0xF0 then some [(0x90, 0xBF), (0x80, 0xBF), (0x80, 0xBF)]
  else if lead < 0xF4 then some [(0x80, 0xBF), (0x80, 0xBF), (0x80, 0xBF)]
  else if lead = 0xF4 then some [(0x80, 0x8F), (0x80, 0xBF), (0x80, 0xBF)]
  else none

/-- How a tail fits its ranges: taken whole, or stopped after some bytes. -/
inductive Tail where
  | whole (bytes : List UInt8)
  | stopped (taken : Nat) (cause : Cause)

def tail : List (UInt8 × UInt8) → Bytes → Tail
  | [], _ => .whole []
  | _ :: _, [] => .stopped 0 .truncated
  | (first, last) :: ranges, b :: bytes =>
      if first ≤ b ∧ b ≤ last then
        match tail ranges bytes with
        | .whole taken => .whole (b :: taken)
        | .stopped taken cause => .stopped (taken + 1) cause
      else .stopped 0 .badContinuation

/-- The character of a well-formed sequence. -/
def character (lead : UInt8) (tail : List UInt8) : Char :=
  let first := match tail.length with
    | 0 => lead.toNat
    | 1 => lead.toNat - 0xC0
    | 2 => lead.toNat - 0xE0
    | _ => lead.toNat - 0xF0
  Char.ofNat (tail.foldl (fun n b => n * 0x40 + (b.toNat - 0x80)) first)

/-- Decodes the bytes that are left, of which `skip` belong to the character
before them; `start` counts the bytes behind us. -/
def decodeFrom (start skip : Nat) : Bytes → Except Fault (List Char)
  | [] => .ok []
  | b :: bytes =>
      match skip with
      | skip + 1 => decodeFrom (start + 1) skip bytes
      | 0 =>
          match tailRanges? b with
          | none => .error ⟨start, b, 1, .badStart⟩
          | some ranges =>
              match tail ranges bytes with
              | .stopped taken cause => .error ⟨start, b, taken + 1, cause⟩
              | .whole taken =>
                  (decodeFrom (start + 1) taken.length bytes).map (character b taken :: ·)

/-- The characters of some bytes. -/
def decode (bytes : Bytes) : Except Fault (List Char) :=
  decodeFrom 0 0 bytes

/-- The bytes of a character. -/
def encodeChar (c : Char) : Bytes :=
  let n := c.toNat
  let continuation (shift : Nat) : UInt8 := .ofNat (0x80 + (n >>> shift) % 0x40)
  if n < 0x80 then [.ofNat n]
  else if n < 0x800 then [.ofNat (0xC0 + n / 0x40), continuation 0]
  else if n < 0x10000 then [.ofNat (0xE0 + n / 0x1000), continuation 6, continuation 0]
  else [.ofNat (0xF0 + n / 0x40000), continuation 12, continuation 6, continuation 0]

/-- A run of lone surrogate halves in a text that was to be written: its place
and its first half. -/
structure LoneHalves where
  start : Nat
  first : CodePoint
  count : Nat

def LoneHalves.message (halves : LoneHalves) : Text :=
  let place : Text :=
    if halves.count = 1 then
      "character '\\u" ++ Text.ofHex 4 halves.first.toNat ++ "' in position "
        ++ Text.ofNat halves.start
    else
      "characters in position " ++ Text.ofNat halves.start ++ "-"
        ++ Text.ofNat (halves.start + halves.count - 1)
  "'utf-8' codec can't encode " ++ place ++ ": surrogates not allowed"

/-- Encodes a text, `start` code points of which are behind us. -/
def encodeFrom (start : Nat) : Text → Except LoneHalves Bytes
  | [] => .ok []
  | .scalar c :: rest => (encodeFrom (start + 1) rest).map (encodeChar c ++ ·)
  | .surrogate half :: rest =>
      .error ⟨start, .surrogate half, (rest.takeWhile CodePoint.isSurrogate).length + 1⟩

/-- The bytes of a text, if it holds characters only. -/
def encode (t : Text) : Except LoneHalves Bytes :=
  encodeFrom 0 t

end Utf8

end SecurityRules
