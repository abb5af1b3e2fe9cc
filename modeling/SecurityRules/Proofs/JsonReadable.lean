import SecurityRules.Json.Reader
import SecurityRules.Proofs.JsonStrings
import SecurityRules.Proofs.NearestBinary64
import SecurityRules.Proofs.NumeralSpelling
import SecurityRules.Proofs.Results

/-!
# What a document can hold

Not every JSON value comes out of a document. A value that does is `Readable`:
its integers keep to the limit on digits, its numbers are canonical, the halves
in its strings are joined, and none of its objects has a key twice.

The reader is a machine, and the proof is an invariant of it. Each token carries
only what the scanners let through, each step of the machine keeps what is on
its stack and in its phase readable, and so the value at the end is.
-/

namespace SecurityRules

/-! ## Records with a new entry -/

namespace Record

variable {α : Type}

theorem insert_of_notMem {key : Text} {r : Record α} (h : key ∉ r.keys) (value : α) :
    r.insert key value = r ++ [(key, value)] := by
  induction r with
  | nil => rfl
  | cons e r ih =>
      obtain ⟨k, old⟩ := e
      simp only [keys, List.map_cons, List.mem_cons, not_or] at h
      rw [insert, if_neg (Ne.symm h.1), ih h.2]
      rfl

theorem mem_keys_insert {key k : Text} {value : α} {r : Record α} :
    k ∈ (r.insert key value).keys ↔ k = key ∨ k ∈ r.keys := by
  induction r with
  | nil => simp [insert, keys]
  | cons e r ih =>
      obtain ⟨k', old⟩ := e
      simp only [keys] at ih
      rw [insert]
      split
      · next h => simp [keys, h]
      · simp only [keys, List.map_cons, List.mem_cons, ih]
        tauto

theorem nodup_keys_insert {r : Record α} (h : r.keys.Nodup) (key : Text) (value : α) :
    (r.insert key value).keys.Nodup := by
  induction r with
  | nil => simp [insert, keys]
  | cons e r ih =>
      obtain ⟨k, old⟩ := e
      obtain ⟨hk, htail⟩ := List.nodup_cons.mp h
      rw [insert]
      split
      · next heq => exact h
      · next hne =>
          refine List.nodup_cons.mpr ⟨fun hmem => ?_, ih htail⟩
          rcases mem_keys_insert.mp hmem with heq | hmem
          · exact hne heq
          · exact hk hmem

theorem mem_of_mem_insert {key : Text} {value : α} {r : Record α} {e : Text × α}
    (h : e ∈ r.insert key value) : e = (key, value) ∨ e ∈ r := by
  induction r with
  | nil => simpa [insert] using h
  | cons e' r ih =>
      obtain ⟨k, old⟩ := e'
      rw [insert] at h
      split at h
      · next heq =>
          rw [heq] at h
          rcases List.mem_cons.mp h with h | h
          · exact Or.inl h
          · exact Or.inr (by simp [h])
      · rcases List.mem_cons.mp h with h | h
        · exact Or.inr (by simp [h])
        · exact (ih h).imp id fun h => by simp [h]

theorem notMem_keys_of_nodup {key : Text} {value : α} {before after : Record α}
    (h : (before ++ (key, value) :: after).keys.Nodup) : key ∉ before.keys := by
  simp only [keys, List.map_append, List.map_cons, List.nodup_append, List.mem_cons] at h
  intro hmem
  exact h.2.2 key hmem key (Or.inl rfl) rfl

end Record

namespace Json

/-- The values that a document can hold: integers within the limit on digits,
canonical numbers, strings with their halves joined, and objects in which no key
comes twice. -/
inductive Readable : Json → Prop
  | null : Readable .null
  | bool (b : Bool) : Readable (.bool b)
  | int {n : Int} (h : n.natAbs < 10 ^ maxIntegerDigits) : Readable (.int n)
  | float {x : Binary64} (h : x.Canonical) : Readable (.float x)
  | string {s : Text} (h : s.Joined) : Readable (.string s)
  | array {items : List Json} (h : ∀ v ∈ items, Readable v) : Readable (.array items)
  | object {entries : Record Json} (hdistinct : entries.keys.Nodup)
      (hkeys : ∀ key ∈ entries.keys, key.Joined) (h : ∀ e ∈ entries, Readable e.2) :
      Readable (.object entries)

theorem readable_object_nil : Readable (.object []) :=
  .object List.nodup_nil (by simp [Record.keys]) (by simp)

theorem Readable.insert {entries : Record Json} (h : Readable (.object entries)) {key : Text}
    (hkey : key.Joined) {v : Json} (hv : Readable v) :
    Readable (.object (entries.insert key v)) := by
  cases h with
  | object hdistinct hkeys hentries =>
      refine .object (Record.nodup_keys_insert hdistinct key v) ?_ ?_
      · intro k hk
        rcases Record.mem_keys_insert.mp hk with rfl | hk
        · exact hkey
        · exact hkeys k hk
      · intro e he
        rcases Record.mem_of_mem_insert he with rfl | he
        · exact hv
        · exact hentries e he

/-! ## Tokens -/

theorem tokens_eq (t : Text) :
    tokens t = match t.dropWhile isSpace with
      | [] => []
      | c :: rest => ⟨(scanLexeme c rest).1, rest.length + 1⟩ :: tokens (scanLexeme c rest).2 := by
  rw [tokens]
  split
  · next h => rw [h]
  · next c rest h => rw [h]

/-- What the scanners make sure of. -/
def Lexeme.Sound : Lexeme → Prop
  | .string s => s.Joined
  | .number n => ∀ c ∈ n.whole, c.isDigit
  | _ => True

theorem sound_scanLexeme (c : CodePoint) (rest : Text) : (scanLexeme c rest).1.Sound := by
  unfold scanLexeme
  -- six marks say nothing; what is left is a string, or else a word or a number
  split
  case h_7 =>
    split
    · exact joined_joinHalves _
    · exact trivial
    · exact trivial
  case h_8 =>
    split
    · next lexeme after hword =>
        obtain ⟨⟨word, lexeme'⟩, hmem, hentry⟩ := List.exists_of_findSome?_eq_some hword
        obtain ⟨_, -, heq⟩ := Option.map_eq_some_iff.mp hentry
        cases heq
        simp only [words, List.mem_cons, Prod.mk.injEq, List.not_mem_nil, or_false] at hmem
        rcases hmem with h | h | h | h | h | h <;> rw [h.2] <;> exact trivial
    · split
      · next n after hscan => exact Numeral.isDigit_of_mem_whole hscan
      · exact trivial
  all_goals exact trivial

theorem sound_tokens (t : Text) : ∀ token ∈ tokens t, token.lexeme.Sound := by
  induction ht : t.length using Nat.strongRecOn generalizing t with
  | _ n ih =>
      rw [tokens_eq]
      split
      · simp
      · next c rest hdrop =>
          have hle := scanLexeme_length_le c rest
          have hlength := (List.dropWhile_sublist isSpace (l := t)).length_le
          rw [hdrop, List.length_cons] at hlength
          intro token htoken
          rcases List.mem_cons.mp htoken with rfl | htoken
          · exact sound_scanLexeme c rest
          · exact ih _ (by omega) _ rfl token htoken

theorem readable_ofNumeral {n : Numeral} (hn : ∀ c ∈ n.whole, c.isDigit) {v : Json}
    (h : ofNumeral n = .ok v) : Readable v := by
  unfold ofNumeral at h
  split at h
  · next i hint =>
      split at h
      · next hlength =>
          cases h
          refine .int ?_
          unfold Numeral.toInt? at hint
          split at hint
          · cases hint
            have hlt := naturalOf_lt hn
            have hle : 10 ^ n.whole.length ≤ 10 ^ maxIntegerDigits :=
              Nat.pow_le_pow_right (by decide) hlength
            rw [natAbs_signed]
            omega
          · cases hint
      · cases h
  · cases h
    exact .float (Binary64.canonical_ofDecimal _ _ _)

/-! ## The machine -/

def Frame.Sound : Frame → Prop
  | .array items => ∀ v ∈ items, Readable v
  | .object entries key => Readable (.object entries) ∧ key.Joined

def Phase.Sound : Phase → Prop
  | .key entries => Readable (.object entries)
  | .colon entries k => Readable (.object entries) ∧ k.Joined
  | .after v => Readable v
  | _ => True

theorem sound_beginValue {t : Token} (ht : t.lexeme.Sound) {phase : Phase}
    (h : beginValue t = .ok phase) : phase.Sound := by
  unfold beginValue at h
  split at h
  case h_7 n hlexeme =>
    rw [hlexeme] at ht
    cases hn : ofNumeral n with
    | error stop => rw [hn] at h; cases h
    | ok v =>
        rw [hn] at h
        cases h
        exact readable_ofNumeral ht hn
  case h_8 s hlexeme =>
    cases h
    rw [hlexeme] at ht
    exact Readable.string ht
  all_goals cases h
  · exact trivial
  · exact trivial
  · exact Readable.null
  · exact Readable.bool _
  · exact Readable.float trivial
  · exact Readable.float trivial

theorem sound_beginEntry {entries : Record Json} (hentries : Readable (.object entries)) {t : Token}
    (ht : t.lexeme.Sound) {phase : Phase} (h : beginEntry entries t = .ok phase) : phase.Sound := by
  unfold beginEntry at h
  split at h
  · next key hlexeme =>
      cases h
      rw [hlexeme] at ht
      exact ⟨hentries, ht⟩
  · cases h
  · cases h

/-- What the machine holds is readable. -/
structure Sound (stack : List Frame) (phase : Phase) : Prop where
  stack : ∀ frame ∈ stack, frame.Sound
  phase : phase.Sound

theorem Sound.step {v : Json} {stack stack' : List Frame} {phase : Phase}
    (h : Sound stack (.after v)) {t : Token} (hstep : step v stack t = .ok (stack', phase)) :
    Sound stack' phase := by
  have hv : Readable v := h.phase
  match stack with
  | [] => cases hstep
  | .array items :: below =>
      have hitems : ∀ v ∈ items, Readable v := h.stack (.array items) (by simp)
      have hbelow : ∀ frame ∈ below, frame.Sound := fun frame hf => h.stack frame (by simp [hf])
      have hall : ∀ w ∈ v :: items, Readable w := by
        intro w hw
        rcases List.mem_cons.mp hw with rfl | hw
        · exact hv
        · exact hitems w hw
      simp only [Json.step] at hstep
      split at hstep
      · cases hstep
        refine ⟨fun frame hf => ?_, trivial⟩
        rcases List.mem_cons.mp hf with rfl | hf
        · exact hall
        · exact hbelow frame hf
      · cases hstep
        exact ⟨hbelow, Readable.array fun w hw => hall w (List.mem_reverse.mp hw)⟩
      · cases hstep
  | .object entries key :: below =>
      obtain ⟨hentries, hkey⟩ : Readable (.object entries) ∧ key.Joined :=
        h.stack (.object entries key) (by simp)
      have hbelow : ∀ frame ∈ below, frame.Sound := fun frame hf => h.stack frame (by simp [hf])
      simp only [Json.step] at hstep
      split at hstep
      · cases hstep
        exact ⟨hbelow, hentries.insert hkey hv⟩
      · cases hstep
        exact ⟨hbelow, hentries.insert hkey hv⟩
      · cases hstep

theorem Sound.advance {stack stack' : List Frame} {phase phase' : Phase} (h : Sound stack phase)
    {t : Token} (ht : t.lexeme.Sound) (hadvance : advance stack phase t = .ok (stack', phase')) :
    Sound stack' phase' := by
  unfold Json.advance at hadvance
  split at hadvance
  · -- a value is due
    obtain ⟨p, hp, heq⟩ := exceptMap_eq_ok hadvance
    cases heq
    exact ⟨h.stack, sound_beginValue ht hp⟩
  · -- an array was opened
    split at hadvance
    · cases hadvance
      exact ⟨h.stack, Readable.array (by simp)⟩
    · obtain ⟨p, hp, heq⟩ := exceptMap_eq_ok hadvance
      cases heq
      refine ⟨fun frame hf => ?_, sound_beginValue ht hp⟩
      rcases List.mem_cons.mp hf with rfl | hf
      · exact fun v hv => by cases hv
      · exact h.stack frame hf
  · -- an object was opened
    split at hadvance
    · cases hadvance
      exact ⟨h.stack, readable_object_nil⟩
    · obtain ⟨p, hp, heq⟩ := exceptMap_eq_ok hadvance
      cases heq
      exact ⟨h.stack, sound_beginEntry readable_object_nil ht hp⟩
  · -- a key is due
    obtain ⟨p, hp, heq⟩ := exceptMap_eq_ok hadvance
    cases heq
    exact ⟨h.stack, sound_beginEntry h.phase ht hp⟩
  · -- a colon is due, and the entry that it opens goes on the stack
    split at hadvance
    · cases hadvance
      refine ⟨fun frame hf => ?_, trivial⟩
      rcases List.mem_cons.mp hf with rfl | hf
      · exact h.phase
      · exact h.stack frame hf
    · cases hadvance
  · exact h.step hadvance

theorem Sound.run {stack : List Frame} {phase : Phase} (h : Sound stack phase) {ts : List Token}
    (hts : ∀ t ∈ ts, t.lexeme.Sound) {v : Json} (hrun : run stack phase ts = .ok v) :
    Readable v := by
  induction ts generalizing stack phase with
  | nil =>
      match stack, phase, hrun with
      | [], .after w, rfl => exact h.phase
  | cons t ts ih =>
      rw [Json.run] at hrun
      split at hrun
      · next stack' phase' hadvance =>
          exact ih (h.advance (hts t (by simp)) hadvance) (fun t ht => hts t (by simp [ht])) hrun
      · cases hrun

/-- Whatever document is read, its value is readable. -/
theorem readable_of_read {t : Text} {v : Json} (h : read t = .ok v) : Readable v := by
  unfold read at h
  split at h
  · cases h
  · split at h
    · next w hrun =>
        cases h
        have hstart : Sound [] .value := ⟨by simp, trivial⟩
        exact hstart.run (sound_tokens t) hrun
    · cases h
    · cases h

end Json

end SecurityRules
