import SecurityRules.Text.Utf8

/-!
# Written bytes are read back

A text that has bytes is read back from them character by character: the first
byte of a character says which bytes may follow it, and the bytes that are
written after it are among these. The ranges that are narrower than the others
leave out spellings that are too long, surrogate halves and numbers past the
last character, and no character needs any of these.
-/

namespace SecurityRules.Utf8

/-! ## One character -/

theorem toNat_byte {n : Nat} (h : n < 0x100) : (UInt8.ofNat n).toNat = n := by
  rw [UInt8.toNat_ofNat', Nat.mod_eq_of_lt h]

/-- What may follow a first byte, by its number. -/
theorem tailRanges?_eq (lead : UInt8) :
    tailRanges? lead =
      if lead.toNat < 0x80 then some []
      else if lead.toNat < 0xC2 then none
      else if lead.toNat < 0xE0 then some [(0x80, 0xBF)]
      else if lead.toNat = 0xE0 then some [(0xA0, 0xBF), (0x80, 0xBF)]
      else if lead.toNat = 0xED then some [(0x80, 0x9F), (0x80, 0xBF)]
      else if lead.toNat < 0xF0 then some [(0x80, 0xBF), (0x80, 0xBF)]
      else if lead.toNat = 0xF0 then some [(0x90, 0xBF), (0x80, 0xBF), (0x80, 0xBF)]
      else if lead.toNat < 0xF4 then some [(0x80, 0xBF), (0x80, 0xBF), (0x80, 0xBF)]
      else if lead.toNat = 0xF4 then some [(0x80, 0x8F), (0x80, 0xBF), (0x80, 0xBF)]
      else none := by
  simp only [tailRanges?, UInt8.lt_iff_toNat_lt, ← UInt8.toNat_inj, UInt8.reduceToNat]

/-- A byte of a character after its first. -/
def continuation (n : Nat) : UInt8 :=
  .ofNat (0x80 + n % 0x40)

theorem toNat_continuation (n : Nat) : (continuation n).toNat = 0x80 + n % 0x40 :=
  toNat_byte (by omega)

theorem tail_continuation {n : Nat} {first last : UInt8} (hfirst : first.toNat ≤ 0x80 + n % 0x40)
    (hlast : 0x80 + n % 0x40 ≤ last.toNat) {ranges : List (UInt8 × UInt8)} {bytes taken : Bytes}
    (h : tail ranges bytes = .whole taken) :
    tail ((first, last) :: ranges) (continuation n :: bytes)
      = .whole (continuation n :: taken) := by
  rw [← toNat_continuation, ← UInt8.le_iff_toNat_le] at hfirst hlast
  rw [tail, if_pos ⟨hfirst, hlast⟩, h]

theorem tail_continuations (ns : List Nat) (rest : Bytes) :
    tail (ns.map fun _ => (0x80, 0xBF)) (ns.map continuation ++ rest)
      = .whole (ns.map continuation) := by
  induction ns with
  | nil => rfl
  | cons n ns ih =>
      refine tail_continuation ?_ ?_ ih <;> simp only [UInt8.reduceToNat] <;> omega

/-- The bytes of one character: the first of them admits the others, and
together they stand for the character. -/
structure Spells (c : Char) (lead : UInt8) (others : Bytes) : Prop where
  admits : ∃ ranges, tailRanges? lead = some ranges
    ∧ ∀ rest, tail ranges (others ++ rest) = .whole others
  character_eq : character lead others = c

theorem spells_one {c : Char} (h : c.toNat < 0x80) : Spells c (.ofNat c.toNat) [] := by
  have hlead : (UInt8.ofNat c.toNat).toNat = c.toNat := toNat_byte (by omega)
  refine ⟨⟨[], ?_, fun _ => rfl⟩, ?_⟩
  · rw [tailRanges?_eq, hlead, if_pos h]
  · simp only [character, List.length_nil, List.foldl_nil, hlead, Char.ofNat_toNat]

theorem spells_two {c : Char} (h : 0x80 ≤ c.toNat) (h' : c.toNat < 0x800) :
    Spells c (.ofNat (0xC0 + c.toNat / 0x40)) [continuation c.toNat] := by
  have hlead : (UInt8.ofNat (0xC0 + c.toNat / 0x40)).toNat = 0xC0 + c.toNat / 0x40 :=
    toNat_byte (by omega)
  refine ⟨⟨_, ?_, tail_continuations [c.toNat]⟩, ?_⟩
  · rw [tailRanges?_eq, hlead, if_neg (by omega), if_neg (by omega), if_pos (by omega)]
    rfl
  · simp only [character, List.length_singleton, List.foldl_cons, List.foldl_nil, hlead,
      toNat_continuation]
    rw [show (0xC0 + c.toNat / 0x40 - 0xC0) * 0x40 + (0x80 + c.toNat % 0x40 - 0x80) = c.toNat by
      omega, Char.ofNat_toNat]

theorem spells_three {c : Char} (h : 0x800 ≤ c.toNat) (h' : c.toNat < 0x10000) :
    Spells c (.ofNat (0xE0 + c.toNat / 0x1000))
      [continuation (c.toNat / 0x40), continuation c.toNat] := by
  have hvalid : c.toNat.isValidChar := c.valid
  simp only [Nat.isValidChar] at hvalid
  have hlead : (UInt8.ofNat (0xE0 + c.toNat / 0x1000)).toNat = 0xE0 + c.toNat / 0x1000 :=
    toNat_byte (by omega)
  refine ⟨?_, ?_⟩
  · -- after 0xE0 no shorter spelling would do, and after 0xED no half begins
    rw [tailRanges?_eq, hlead, if_neg (by omega), if_neg (by omega), if_neg (by omega)]
    split
    · refine ⟨_, rfl, fun rest => tail_continuation ?_ ?_ (tail_continuations [c.toNat] rest)⟩ <;>
        simp only [UInt8.reduceToNat] <;> omega
    · split
      · refine ⟨_, rfl, fun rest => tail_continuation ?_ ?_ (tail_continuations [c.toNat] rest)⟩ <;>
          simp only [UInt8.reduceToNat] <;> omega
      · rw [if_pos (by omega)]
        exact ⟨_, rfl, tail_continuations [c.toNat / 0x40, c.toNat]⟩
  · simp only [character, List.length_cons, List.length_nil, List.foldl_cons, List.foldl_nil,
      hlead, toNat_continuation]
    rw [show ((0xE0 + c.toNat / 0x1000 - 0xE0) * 0x40 + (0x80 + c.toNat / 0x40 % 0x40 - 0x80))
      * 0x40 + (0x80 + c.toNat % 0x40 - 0x80) = c.toNat by omega, Char.ofNat_toNat]

theorem spells_four {c : Char} (h : 0x10000 ≤ c.toNat) :
    Spells c (.ofNat (0xF0 + c.toNat / 0x40000)) [continuation (c.toNat / 0x1000),
      continuation (c.toNat / 0x40), continuation c.toNat] := by
  have hvalid : c.toNat.isValidChar := c.valid
  simp only [Nat.isValidChar] at hvalid
  have hlead : (UInt8.ofNat (0xF0 + c.toNat / 0x40000)).toNat = 0xF0 + c.toNat / 0x40000 :=
    toNat_byte (by omega)
  refine ⟨?_, ?_⟩
  · -- after 0xF0 no shorter spelling would do, and after 0xF4 the last character is near
    rw [tailRanges?_eq, hlead, if_neg (by omega), if_neg (by omega), if_neg (by omega),
      if_neg (by omega), if_neg (by omega), if_neg (by omega)]
    split
    · refine ⟨_, rfl, fun rest => tail_continuation ?_ ?_
        (tail_continuations [c.toNat / 0x40, c.toNat] rest)⟩ <;>
        simp only [UInt8.reduceToNat] <;> omega
    · split
      · exact ⟨_, rfl, tail_continuations [c.toNat / 0x1000, c.toNat / 0x40, c.toNat]⟩
      · rw [if_pos (by omega)]
        refine ⟨_, rfl, fun rest => tail_continuation ?_ ?_
          (tail_continuations [c.toNat / 0x40, c.toNat] rest)⟩ <;>
          simp only [UInt8.reduceToNat] <;> omega
  · simp only [character, List.length_cons, List.length_nil, List.foldl_cons, List.foldl_nil,
      hlead, toNat_continuation]
    rw [show (((0xF0 + c.toNat / 0x40000 - 0xF0) * 0x40 + (0x80 + c.toNat / 0x1000 % 0x40 - 0x80))
      * 0x40 + (0x80 + c.toNat / 0x40 % 0x40 - 0x80)) * 0x40 + (0x80 + c.toNat % 0x40 - 0x80)
      = c.toNat by omega, Char.ofNat_toNat]

theorem exists_spells (c : Char) :
    ∃ lead others, encodeChar c = lead :: others ∧ Spells c lead others := by
  unfold encodeChar
  simp only [Nat.shiftRight_eq_div_pow, Nat.pow_zero, Nat.div_one]
  split
  · exact ⟨_, _, rfl, spells_one ‹_›⟩
  · split
    · exact ⟨_, _, rfl, spells_two (by omega) ‹_›⟩
    · split
      · exact ⟨_, _, rfl, spells_three (by omega) ‹_›⟩
      · exact ⟨_, _, rfl, spells_four (by omega)⟩

/-! ## All characters -/

theorem decodeFrom_append (start : Nat) (taken rest : Bytes) :
    decodeFrom start taken.length (taken ++ rest) = decodeFrom (start + taken.length) 0 rest := by
  induction taken generalizing start with
  | nil => rfl
  | cons b taken ih =>
      rw [List.length_cons, List.cons_append, decodeFrom, ih, Nat.add_right_comm, Nat.add_assoc]

theorem decodeFrom_encodeChar (start : Nat) (c : Char) (rest : Bytes) :
    ∃ start', decodeFrom start 0 (encodeChar c ++ rest)
      = (decodeFrom start' 0 rest).map (c :: ·) := by
  obtain ⟨lead, others, hbytes, hspells⟩ := exists_spells c
  obtain ⟨ranges, hlead, htail⟩ := hspells.admits
  refine ⟨start + 1 + others.length, ?_⟩
  rw [hbytes, List.cons_append, decodeFrom]
  simp only [hlead, htail, hspells.character_eq, decodeFrom_append]

theorem decodeFrom_encodeFrom {t : Text} {place : Nat} {bytes : Bytes}
    (h : encodeFrom place t = .ok bytes) (start : Nat) :
    ∃ characters, t = Text.ofChars characters ∧ decodeFrom start 0 bytes = .ok characters := by
  induction t generalizing place bytes start with
  | nil =>
      cases h
      exact ⟨[], rfl, rfl⟩
  | cons c t ih =>
      cases c with
      | surrogate half => cases h
      | scalar c =>
          cases hrest : encodeFrom (place + 1) t with
          | error halves =>
              rw [encodeFrom, hrest] at h
              cases h
          | ok rest =>
              rw [encodeFrom, hrest] at h
              cases h
              obtain ⟨start', hdecode⟩ := decodeFrom_encodeChar start c rest
              obtain ⟨characters, rfl, hcharacters⟩ := ih hrest start'
              refine ⟨c :: characters, rfl, ?_⟩
              rw [hdecode, hcharacters]
              rfl

/-- A text that has bytes is what the bytes are read as. -/
theorem decode_of_encode {t : Text} {bytes : Bytes} (h : encode t = .ok bytes) :
    ∃ characters, t = Text.ofChars characters ∧ decode bytes = .ok characters :=
  decodeFrom_encodeFrom h 0

end SecurityRules.Utf8
