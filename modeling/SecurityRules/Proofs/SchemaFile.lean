import SecurityRules.Files.Source
import SecurityRules.Proofs.SchemaReload
import SecurityRules.Proofs.Utf8ReadBack

/-!
# A schema survives a file

A schema that was loaded is dumped, gets a line feed at its end and becomes the
bytes of a file. Loading the file gives the schema back. A document is written
with the printable ASCII characters and line feeds, so that unifying the line
breaks of the file changes nothing, and the line feed at its end is white space.
-/

namespace SecurityRules

/-! ## The characters of a document -/

namespace Json

/-- A printable ASCII character or a line feed. -/
def IsPlain (c : CodePoint) : Prop :=
  0x20 ≤ c.toNat ∧ c.toNat < 0x7F ∨ c = .scalar '\n'

instance (c : CodePoint) : Decidable (IsPlain c) :=
  inferInstanceAs (Decidable (_ ∨ _))

theorem isPlain_ofString {s : String} (h : (Text.ofString s).all fun c => IsPlain c) :
    ∀ c ∈ Text.ofString s, IsPlain c :=
  fun c hc => of_decide_eq_true (List.all_eq_true.mp h c hc)

theorem isPlain_of_isDigit {c : Char} (h : c.isDigit) : IsPlain (.scalar c) := by
  simp only [Char.isDigit, Bool.and_eq_true, decide_eq_true_eq] at h
  refine Or.inl ⟨?_, ?_⟩
  · exact le_trans (by decide) (UInt32.le_iff_toNat_le.mp h.1)
  · exact lt_of_le_of_lt (UInt32.le_iff_toNat_le.mp h.2) (by decide)

theorem isPlain_digitChar : ∀ d < 16, IsPlain (.scalar d.digitChar) := by
  decide

theorem isPlain_unicodeEscape {n : Nat} (h : n < 0x10000) : ∀ c ∈ unicodeEscape n, IsPlain c := by
  rw [unicodeEscape, ofHex_four h, List.forall_mem_append]
  refine ⟨isPlain_ofString (by decide), fun c hc => ?_⟩
  obtain ⟨d, hd, rfl⟩ := List.mem_map.mp hc
  simp only [List.mem_cons, List.not_mem_nil, or_false] at hd
  rcases hd with rfl | rfl | rfl | rfl <;> exact isPlain_digitChar _ (by omega)

theorem isPlain_escaped (c : CodePoint) : ∀ d ∈ escaped c, IsPlain d := by
  unfold escaped
  split
  case h_8 =>
    have hlt := c.toNat_lt
    split
    · next hprintable =>
        rw [List.forall_mem_singleton]
        exact Or.inl hprintable
    · split
      · next hplane => exact isPlain_unicodeEscape hplane
      · rw [List.forall_mem_append]
        exact ⟨isPlain_unicodeEscape (by omega), isPlain_unicodeEscape (by omega)⟩
  all_goals exact isPlain_ofString (by decide)

theorem isPlain_writeString (s : Text) : ∀ c ∈ writeString s, IsPlain c := by
  simp only [writeString, List.forall_mem_append, List.forall_mem_singleton,
    List.forall_mem_flatMap]
  exact ⟨⟨by decide, fun c _ => isPlain_escaped c⟩, by decide⟩

theorem isPlain_writeKey (key : Text) : ∀ c ∈ writeKey key, IsPlain c := by
  rw [writeKey, List.forall_mem_append]
  exact ⟨isPlain_writeString key, isPlain_ofString (by decide)⟩

theorem isPlain_digits {cs : List Char} (h : IsDigits cs) : ∀ c ∈ Text.ofChars cs, IsPlain c := by
  intro c hc
  obtain ⟨d, hd, rfl⟩ := List.mem_map.mp hc
  exact isPlain_of_isDigit (h.2 d hd)

theorem isPlain_spelling {n : Numeral} (h : n.WellSpelled) : ∀ c ∈ n.spelling, IsPlain c := by
  simp only [Numeral.spelling, List.forall_mem_append]
  refine ⟨?_, isPlain_digits h.whole, ?_, ?_⟩
  · cases n.negative <;> exact isPlain_ofString (by decide)
  · cases hfraction : n.fraction with
    | none => exact List.forall_mem_nil _
    | some digits =>
        rw [Numeral.fractionSpelling, List.forall_mem_cons]
        exact ⟨by decide, isPlain_digits (h.fraction digits hfraction)⟩
  · cases hexponent : n.exponent with
    | none => exact List.forall_mem_nil _
    | some power =>
        rw [Numeral.exponentSpelling, List.forall_mem_cons, List.forall_mem_cons]
        exact ⟨by decide, by cases power.1 <;> decide, isPlain_digits (h.exponent power hexponent)⟩

theorem isPlain_writeFloat {x : Binary64} (hx : x.Canonical) :
    ∀ c ∈ x.text floatWords, IsPlain c := by
  match x with
  | .nan => exact isPlain_ofString (by decide)
  | .infinity negative => cases negative <;> decide
  | .finite negative mantissa exponent =>
      obtain ⟨n, hn, hspell, -⟩ := Binary64.exists_numeral_text floatWords negative hx
      rw [← hspell]
      exact isPlain_spelling hn

/-- A layout whose line breaks are plain. -/
def Layout.IsPlain (layout : Layout) : Prop :=
  ∀ depth, ∀ c ∈ layout.lineBreak depth, Json.IsPlain c

theorem Layout.IsPlain.separator {layout : Layout} (h : layout.IsPlain) (depth : Nat) :
    ∀ c ∈ layout.separator depth, Json.IsPlain c := by
  cases layout with
  | line => exact isPlain_ofString (by decide)
  | block unit =>
      rw [Layout.separator, List.forall_mem_cons]
      exact ⟨by decide, h depth⟩

theorem isPlain_writeItems {layout : Layout} (hl : layout.IsPlain) (depth : Nat) {items : List Json}
    (h : ∀ v ∈ items, ∀ c ∈ writeAt layout depth v, IsPlain c) :
    ∀ c ∈ writeItems layout depth items, IsPlain c := by
  induction items with
  | nil => exact List.forall_mem_nil _
  | cons item items ih =>
      simp only [writeItems, List.forall_mem_append]
      rw [List.forall_mem_cons] at h
      exact ⟨⟨hl.separator depth, h.1⟩, ih h.2⟩

theorem isPlain_writeEntries {layout : Layout} (hl : layout.IsPlain) (depth : Nat)
    {entries : Record Json} (h : ∀ e ∈ entries, ∀ c ∈ writeAt layout depth e.2, IsPlain c) :
    ∀ c ∈ writeEntries layout depth entries, IsPlain c := by
  induction entries with
  | nil => exact List.forall_mem_nil _
  | cons e entries ih =>
      simp only [writeEntries, List.forall_mem_append]
      rw [List.forall_mem_cons] at h
      exact ⟨⟨⟨hl.separator depth, isPlain_writeKey e.1⟩, h.1⟩, ih h.2⟩

/-- A document is written with plain characters only. -/
theorem Readable.isPlain_writeAt {layout : Layout} (hl : layout.IsPlain) {v : Json}
    (hv : Readable v) (depth : Nat) : ∀ c ∈ writeAt layout depth v, IsPlain c := by
  induction hv generalizing depth with
  | null => exact isPlain_ofString (by decide)
  | bool b => cases b <;> exact isPlain_ofString (by decide)
  | @int n hn =>
      rw [writeAt, ← Numeral.spelling_ofInt]
      exact isPlain_spelling (Numeral.wellSpelled_ofInt n)
  | float hx => exact isPlain_writeFloat hx
  | @string s hs => exact isPlain_writeString s
  | @array items hitems ih =>
      cases items with
      | nil => exact isPlain_ofString (by decide)
      | cons item items =>
          simp only [writeAt, List.forall_mem_append, List.forall_mem_singleton]
          rw [List.forall_mem_cons] at ih
          exact ⟨⟨⟨⟨⟨by decide, hl _⟩, ih.1 _⟩,
            isPlain_writeItems hl _ fun v hv => ih.2 v hv _⟩, hl _⟩, by decide⟩
  | @object entries hdistinct hkeys hentries ih =>
      cases entries with
      | nil => exact isPlain_ofString (by decide)
      | cons e entries =>
          simp only [writeAt, List.forall_mem_append, List.forall_mem_singleton]
          rw [List.forall_mem_cons] at ih
          exact ⟨⟨⟨⟨⟨⟨by decide, hl _⟩, isPlain_writeKey e.1⟩, ih.1 _⟩,
            isPlain_writeEntries hl _ fun e he => ih.2 e he _⟩, hl _⟩, by decide⟩

theorem Layout.isPlain_spaces (n : Int) : (Layout.spaces n).IsPlain := by
  intro depth
  rw [Layout.spaces, Layout.lineBreak, List.forall_mem_cons]
  refine ⟨by decide, fun c hc => ?_⟩
  simp only [Text.times, List.mem_flatten, List.mem_replicate] at hc
  obtain ⟨unit, ⟨-, rfl⟩, hc⟩ := hc
  rw [List.eq_of_mem_replicate hc]
  decide

end Json

/-! ## Line breaks -/

theorem Text.plainBreaks_eq_self {t : Text} (h : .scalar '\r' ∉ t) : t.plainBreaks = t := by
  fun_induction plainBreaks t with
  | case1 rest ih => simp at h
  | case2 rest hne ih => simp at h
  | case3 c rest hne hcr ih => rw [ih fun hmem => h (List.mem_cons_of_mem _ hmem)]
  | case4 => rfl

theorem Schema.plainBreaks_dump {s : Schema} (h : ∀ m ∈ s, m.Holds Json.Readable) :
    Text.plainBreaks (s.dump Schema.defaultLayout ++ "\n")
      = s.dump Schema.defaultLayout ++ "\n" := by
  have hplain := (Schema.readable_toJson h).isPlain_writeAt (Json.Layout.isPlain_spaces 2) 0
  refine Text.plainBreaks_eq_self fun hmem => ?_
  rcases List.mem_append.mp hmem with hmem | hmem
  · rcases hplain _ hmem with ⟨hle, -⟩ | heq
    · exact absurd hle (by decide)
    · cases heq
  · exact absurd hmem (by decide)

/-! ## Saving and loading -/

section

variable {stack : Stack}

theorem Schema.loadWithin_eq_ok_iff {t : Text} {s : Schema} :
    Schema.loadWithin stack t = .ok s
      ↔ stack.exhaustedBy .json t = false ∧ Schema.load t = .ok s := by
  unfold loadWithin
  split
  · next hexhausted => simp [hexhausted]
  · next hspared => simp [hspared]

/-- The file that a loaded schema is saved in holds the schema, as far as the stack
reaches. -/
theorem Schema.ofFile_of_encode_dump {s : Schema} (h : ∀ m ∈ s, m.Holds Json.Readable)
    {bytes : Bytes} (hbytes : Utf8.encode (s.dump Schema.defaultLayout ++ "\n") = .ok bytes)
    (hstack : stack.exhaustedBy .json (s.dump Schema.defaultLayout ++ "\n") = false)
    (path : Path) : Schema.ofFile path (.ok (.file bytes)) stack = .ok s := by
  obtain ⟨characters, hcontent, hdecode⟩ := Utf8.decode_of_encode hbytes
  have hread : Json.read (s.dump Schema.defaultLayout ++ "\n") = .ok s.toJson :=
    Json.read_write_spaces (Json.Layout.blank_ofIndent (some 2)) (Schema.readable_toJson h)
      (by decide)
  have hload : Schema.load (s.dump Schema.defaultLayout ++ "\n") = .ok s :=
    Schema.load_eq_ok_iff.mpr
      ⟨_, hread, Schema.ofJson_toJson fun m hm f hf => ((h m hm).fields f hf).normal⟩
  simp only [Schema.ofFile, hdecode, ← hcontent, Schema.plainBreaks_dump h,
    Schema.loadWithin_eq_ok_iff.mpr ⟨hstack, hload⟩]

theorem Schema.holds_of_ofFile {path : Path} {node : Except PathFault Node} {s : Schema}
    (h : Schema.ofFile path node stack = .ok s) : ∀ m ∈ s, m.Holds Json.Readable := by
  unfold Schema.ofFile at h
  split at h
  · cases h
  · cases h
  · cases h
  · split at h
    · cases h
    · split at h
      · cases h
      · next loaded hload =>
          cases h
          exact Schema.holds_of_load (Schema.loadWithin_eq_ok_iff.mp hload).2

end

end SecurityRules
