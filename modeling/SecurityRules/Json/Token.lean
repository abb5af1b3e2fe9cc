import SecurityRules.Decimal.Numeral

/-!
# JSON tokens

A document is split into tokens before it is given a structure. A token knows
how much of the document is left where it starts, which fixes its place and
does not depend on what came before it.

The split never fails. A string that breaks off or holds something it may not
becomes a token that carries its fault, and a character that starts no token
becomes a stray one; whether either matters is for the reader to say, since it
may find fault with the place before it looks at the token.
-/

namespace SecurityRules.Json

/-- What can be wrong inside a string. -/
inductive StringFault where
  | unterminated
  | controlCharacter
  | badEscape
  | badUnicodeEscape
  deriving DecidableEq, Repr

inductive Lexeme where
  | openBrace
  | closeBrace
  | openBracket
  | closeBracket
  | colon
  | comma
  | null
  | bool (b : Bool)
  | nan
  | infinity (negative : Bool)
  | number (n : Numeral)
  | string (s : Text)
  | brokenString (fault : StringFault) (left : Nat)
  | stray
  deriving DecidableEq, Repr

/-- A lexeme, and the count of code points from its first to the end of the
document. -/
structure Token where
  lexeme : Lexeme
  left : Nat
  deriving DecidableEq, Repr

/-- The white space between tokens. -/
def isSpace (c : CodePoint) : Bool :=
  c = .scalar ' ' || c = .scalar '\t' || c = .scalar '\n' || c = .scalar '\r'

/-- The value of a hexadecimal digit in either case. -/
def hexDigit? : CodePoint → Option Nat
  | .scalar c =>
      if '0' ≤ c ∧ c ≤ '9' then some (c.toNat - '0'.toNat)
      else if 'a' ≤ c ∧ c ≤ 'f' then some (c.toNat - 'a'.toNat + 10)
      else if 'A' ≤ c ∧ c ≤ 'F' then some (c.toNat - 'A'.toNat + 10)
      else none
  | .surrogate _ => none

/-- The code point that four hexadecimal digits name. -/
def hexCodePoint? (a b c d : CodePoint) : Option CodePoint :=
  match hexDigit? a, hexDigit? b, hexDigit? c, hexDigit? d with
  | some a, some b, some c, some d => some (.ofNat (((a * 16 + b) * 16 + c) * 16 + d))
  | _, _, _, _ => none

/-- The character that a backslash and one more character stand for. -/
def shortEscape? : CodePoint → Option Char
  | .scalar '"' => some '"'
  | .scalar '\\' => some '\\'
  | .scalar '/' => some '/'
  | .scalar 'b' => some '\x08'
  | .scalar 'f' => some '\x0c'
  | .scalar 'n' => some '\n'
  | .scalar 'r' => some '\r'
  | .scalar 't' => some '\t'
  | _ => none

/-- The inside of a string up to its closing quote, and what follows; or the
first fault in it, with what is left of the document there. A string that is
not closed has its fault where it opens, so that one carries no place. -/
inductive StringScan where
  | closed (inside rest : Text)
  | unterminated
  | broken (fault : StringFault) (left : Nat)

/-- Puts a code point in front of the inside of a string. -/
def StringScan.cons (c : CodePoint) : StringScan → StringScan
  | closed inside rest => closed (c :: inside) rest
  | other => other

/-- Reads the inside of a string. An escape of four digits must not end the
document. -/
def scanString : Text → StringScan
  | [] => .unterminated
  | c :: rest =>
      if c = .scalar '"' then .closed [] rest
      else if c = .scalar '\\' then
        match rest with
        | [] => .unterminated
        | e :: more =>
            if e = .scalar 'u' then
              match more with
              | a :: b :: x :: y :: next :: after =>
                  match hexCodePoint? a b x y with
                  | some point => (scanString (next :: after)).cons point
                  | none => .broken .badUnicodeEscape (more.length + 1)
              | _ => .broken .badUnicodeEscape (more.length + 1)
            else
              match shortEscape? e with
              | some point => (scanString more).cons (.scalar point)
              | none => .broken .badEscape (rest.length + 1)
      else if c.toNat < 0x20 then .broken .controlCharacter (rest.length + 1)
      else (scanString rest).cons c

/-- Joins each high surrogate half with a low one right after it. -/
def joinHalves : Text → Text
  | .surrogate high :: .surrogate low :: rest =>
      if high.val < 0x400 ∧ 0x400 ≤ low.val then
        .ofNat (0x10000 + high.val * 0x400 + (low.val - 0x400)) :: joinHalves rest
      else .surrogate high :: joinHalves (.surrogate low :: rest)
  | c :: rest => c :: joinHalves rest
  | [] => []

/-- The words of the language with their lexemes. -/
def words : List (Text × Lexeme) :=
  [("null", .null), ("true", .bool true), ("false", .bool false), ("NaN", .nan),
   ("Infinity", .infinity false), ("-Infinity", .infinity true)]

/-- The word at the front of a text, and what follows it. -/
def scanWord? (t : Text) : Option (Lexeme × Text) :=
  words.findSome? fun (word, lexeme) => (word.after? t).map (lexeme, ·)

/-- The lexeme at the front of a text that starts with `c`, and what follows it. -/
def scanLexeme (c : CodePoint) (rest : Text) : Lexeme × Text :=
  match c with
  | .scalar '\x7b' => (.openBrace, rest)
  | .scalar '\x7d' => (.closeBrace, rest)
  | .scalar '[' => (.openBracket, rest)
  | .scalar ']' => (.closeBracket, rest)
  | .scalar ':' => (.colon, rest)
  | .scalar ',' => (.comma, rest)
  | .scalar '"' =>
      match scanString rest with
      | .closed inside after => (.string (joinHalves inside), after)
      | .unterminated => (.brokenString .unterminated (rest.length + 1), [])
      | .broken fault left => (.brokenString fault left, [])
  | c =>
      match scanWord? (c :: rest) with
      | some (lexeme, after) => (lexeme, after)
      | none =>
          match Numeral.scan? (c :: rest) with
          | some (n, after) => (.number n, after)
          | none => (.stray, [])

theorem StringScan.cons_eq_closed {c : CodePoint} {scan : StringScan} {inside rest : Text}
    (h : scan.cons c = .closed inside rest) : ∃ more, scan = .closed more rest := by
  cases scan with
  | closed more after =>
      simp only [cons, closed.injEq] at h
      exact ⟨more, by rw [h.2]⟩
  | unterminated => cases h
  | broken fault left => cases h

/-- A string takes at least its closing quote. -/
theorem scanString_length_lt {t inside rest : Text} (h : scanString t = .closed inside rest) :
    rest.length < t.length := by
  fun_induction scanString t generalizing inside with
  | case2 after =>
      simp only [StringScan.closed.injEq] at h
      simp [h.2]
  | case4 | case7 | case10 =>
      rename_i ih
      obtain ⟨more, hmore⟩ := StringScan.cons_eq_closed h
      have := ih hmore
      simp only [List.length_cons] at this ⊢
      omega
  | _ => cases h

theorem scanWord?_length_lt {t rest : Text} {lexeme : Lexeme}
    (h : scanWord? t = some (lexeme, rest)) : rest.length < t.length := by
  obtain ⟨entry, hmem, hentry⟩ := List.exists_of_findSome?_eq_some h
  obtain ⟨after, hafter, heq⟩ := Option.map_eq_some_iff.mp hentry
  have hlength := Text.length_after? hafter
  have hword : ∀ e ∈ words, 0 < e.1.length := by decide
  have := hword entry hmem
  simp only [Prod.mk.injEq] at heq
  rw [heq.2] at hlength
  omega

/-- A lexeme takes the code point that it starts with. -/
theorem scanLexeme_length_le (c : CodePoint) (rest : Text) :
    (scanLexeme c rest).2.length ≤ rest.length := by
  unfold scanLexeme
  split
  case h_7 =>
    split
    · rename_i hscan
      exact Nat.le_of_lt (scanString_length_lt hscan)
    · simp
    · simp
  case h_8 =>
    split
    · rename_i hword
      have := scanWord?_length_lt hword
      simp only [List.length_cons] at this ⊢
      omega
    · split
      · rename_i hscan
        have := Numeral.scan?_length_lt hscan
        simp only [List.length_cons] at this ⊢
        omega
      · simp
  all_goals exact Nat.le_refl _

/-- The tokens of a document. Nothing follows a broken string or a stray
character. -/
def tokens (t : Text) : List Token :=
  match h : t.dropWhile isSpace with
  | [] => []
  | c :: rest =>
      ⟨(scanLexeme c rest).1, rest.length + 1⟩ :: tokens (scanLexeme c rest).2
termination_by t.length
decreasing_by
  have hle := scanLexeme_length_le c rest
  have hdrop := (List.dropWhile_sublist isSpace (l := t)).length_le
  simp only [h, List.length_cons] at hdrop
  omega

end SecurityRules.Json
