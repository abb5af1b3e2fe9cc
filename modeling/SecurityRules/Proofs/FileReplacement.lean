import SecurityRules.Files.Tree
import SecurityRules.Proofs.Utf8ReadBack

/-!
# What writing a file does to a tree

A file that is written stands at one place, where there was no directory, and
no other place changes: `Filled` says so of two trees. Ways that lead somewhere
are the same in both. A way that leads nowhere can only change its reason: where
there was nothing there is a file now, and neither can be gone through.

`Replaced` says the same to a reader who knows paths and not places.
-/

namespace SecurityRules.FileTree

/-! ## Places -/

theorem node?_set {place : Location} (h : place.isAbove = false) (node : Node) (tree : FileTree)
    (other : Location) :
    (tree.set place node).node? other = if other = place then some node else tree.node? other := by
  unfold node?
  by_cases habove : other.isAbove
  · have hne : other ≠ place := by
      rintro rfl
      rw [h] at habove
      cases habove
    rw [if_pos habove, if_neg hne, if_pos habove]
  · rw [if_neg habove, if_neg habove]
    induction tree with
    | nil => by_cases hplace : other = place <;> simp [set, hplace, eq_comm]
    | cons entry tree ih =>
        obtain ⟨name, old⟩ := entry
        by_cases hname : name = place
        · by_cases hplace : other = place
          · simp [set, hname, hplace]
          · simp [set, hname, hplace, Ne.symm hplace]
        · by_cases hother : name = other
          · have hplace : other ≠ place := hother ▸ hname
            simp [set, hother, hplace]
          · simp [set, hname, hother, ih]

theorem set_eq_self {tree : FileTree} {place : Location} {node : Node}
    (habove : place.isAbove = false) (h : tree.node? place = some node) :
    tree.set place node = tree := by
  rw [node?, if_neg (by simp [habove])] at h
  induction tree with
  | nil => cases h
  | cons entry tree ih =>
      obtain ⟨name, old⟩ := entry
      rw [set]
      by_cases hname : name = place
      · simp only [hname, List.find?_cons_of_pos, decide_true, Option.map_some,
          Option.some.injEq] at h
        rw [if_pos hname, h]
      · rw [if_neg hname, ih]
        simpa [hname] using h

/-- Two trees that differ at one place, where the second has a file and the
first has no directory. -/
structure Filled (place : Location) (bytes : Bytes) (tree tree' : FileTree) : Prop where
  before : tree.node? place ≠ some .directory
  after : tree'.node? place = some (.file bytes)
  others : ∀ other, other ≠ place → tree'.node? other = tree.node? other

theorem filled_set {tree : FileTree} {place : Location} (h : tree.node? place ≠ some .directory)
    (bytes : Bytes) : Filled place bytes tree (tree.set place (.file bytes)) := by
  have habove : place.isAbove = false := Bool.eq_false_iff.mpr fun habove => h (if_pos habove)
  refine ⟨h, ?_, fun other hother => ?_⟩
  · rw [node?_set habove, if_pos rfl]
  · rw [node?_set habove, if_neg hother]

/-! ## Ways -/

/-- A way in a tree and the same way in a tree with one more file: it leads to
the same place, or nowhere for the same reason or because the file is now where
nothing was. -/
def SameWay {α : Type} (way way' : Except PathFault α) : Prop :=
  way' = way ∨ (way = .error .missing ∧ way' = .error .notDirectory)

theorem SameWay.eq_ok_iff {α : Type} {way way' : Except PathFault α} (h : SameWay way way')
    {a : α} : way' = .ok a ↔ way = .ok a := by
  rcases h with rfl | ⟨rfl, rfl⟩
  · rfl
  · exact ⟨nofun, nofun⟩

section

variable {place : Location} {bytes : Bytes} {tree tree' : FileTree}
  (h : Filled place bytes tree tree') (home : Home)

include h

theorem Filled.follow (start : Location) (names : List Text) :
    SameWay (tree.follow home start names) (tree'.follow home start names) := by
  induction names generalizing start with
  | nil => exact Or.inl rfl
  | cons name names ih =>
      simp only [FileTree.follow]
      by_cases hstart : start = place
      · -- the file cannot be gone through, and nothing could be before
        rw [hstart, h.after]
        cases hnode : tree.node? place with
        | none => exact Or.inr ⟨rfl, rfl⟩
        | some node =>
            cases node with
            | file old => exact Or.inl rfl
            | directory => exact absurd hnode h.before
      · rw [h.others start hstart]
        cases tree.node? start with
        | none => exact Or.inl rfl
        | some node =>
            cases node with
            | file old => exact Or.inl rfl
            | directory =>
                simp only
                split
                · exact ih _
                · split
                  · exact Or.inl rfl
                  · exact ih _

theorem Filled.locate (path : Path) : SameWay (tree.locate home path) (tree'.locate home path) := by
  unfold FileTree.locate
  split
  · exact Or.inl rfl
  · exact h.follow home _ _

theorem Filled.look_other {path : Path} (hpath : tree.locate home path ≠ .ok place) :
    SameWay (tree.look path home) (tree'.look path home) := by
  unfold FileTree.look
  split
  · exact Or.inl rfl
  · rcases h.locate home path with hsame | ⟨hmissing, hfile⟩
    · rw [hsame]
      cases hway : tree.locate home path with
      | error fault => exact Or.inl rfl
      | ok names =>
          have hne : names ≠ place := by
            rintro rfl
            exact hpath hway
          simp only [h.others names hne]
          exact Or.inl rfl
    · rw [hmissing, hfile]
      exact Or.inr ⟨rfl, rfl⟩

theorem Filled.node?_directory_iff (names : Location) :
    tree'.node? names = some .directory ↔ tree.node? names = some .directory := by
  by_cases hnames : names = place
  · rw [hnames, h.after]
    exact ⟨nofun, fun hnode => absurd hnode h.before⟩
  · rw [h.others names hnames]

end

/-! ## Writing -/

theorem target_eq_ok_iff {tree : FileTree} {home : Home} {path : Path} {place : Location} :
    tree.target home path = .ok place
      ↔ (Path.strayHalves? 0 path.text = none ∧ path.text.holds '\x00' = false)
        ∧ tree.locate home path = .ok place ∧ tree.node? place ≠ some .directory := by
  unfold target
  constructor
  · intro h
    split at h
    · cases h
    · next hhalves =>
        split at h
        · cases h
        · next hnull =>
            split at h
            · cases h
            · next names hlocate =>
                split at h
                · cases h
                · next hnode =>
                    cases h
                    exact ⟨⟨hhalves, by simpa using hnull⟩, hlocate, hnode⟩
  · rintro ⟨⟨hhalves, hnull⟩, hlocate, hnode⟩
    simp only [hhalves, hnull, hlocate, Bool.false_eq_true, if_false]

theorem Filled.target_eq_ok_iff {place : Location} {bytes : Bytes} {tree tree' : FileTree}
    (h : Filled place bytes tree tree') {home : Home} {path : Path} {names : Location} :
    tree'.target home path = .ok names ↔ tree.target home path = .ok names := by
  rw [FileTree.target_eq_ok_iff, FileTree.target_eq_ok_iff, (h.locate home path).eq_ok_iff,
    ne_eq, ne_eq, h.node?_directory_iff]

theorem look_of_target {tree tree' : FileTree} {home : Home} {path : Path} {place : Location}
    {bytes : Bytes} (htarget : tree.target home path = .ok place)
    (h : Filled place bytes tree tree') :
    tree'.look path home = .ok (.file bytes) := by
  obtain ⟨⟨hhalves, hnull⟩, hlocate, -⟩ := target_eq_ok_iff.mp htarget
  rw [look, hhalves, hnull, (h.locate home path).eq_ok_iff.mpr hlocate]
  simp only [h.after]
  rfl

theorem write_eq_ok_iff {tree tree' : FileTree} {home : Home} {path : Path} {content : Text} :
    tree.write home path content = (.ok (), tree')
      ↔ ∃ place bytes, tree.target home path = .ok place ∧ Utf8.encode content = .ok bytes
        ∧ tree' = tree.set place (.file bytes) := by
  unfold write
  cases tree.target home path with
  | error fault => simp
  | ok place =>
      cases Utf8.encode content with
      | error halves => simp
      | ok bytes => simp [eq_comm]

theorem write_fst_eq_ok_iff {tree : FileTree} {home : Home} {path : Path} {content : Text} :
    (tree.write home path content).1 = .ok ()
      ↔ ∃ place bytes, tree.target home path = .ok place ∧ Utf8.encode content = .ok bytes := by
  unfold write
  cases tree.target home path with
  | error fault => simp
  | ok place => cases Utf8.encode content <;> simp

theorem Filled.write_fst_eq_ok_iff {place : Location} {bytes : Bytes} {tree tree' : FileTree}
    (h : Filled place bytes tree tree') {home : Home} {path : Path} {content : Text} :
    (tree'.write home path content).1 = .ok () ↔ (tree.write home path content).1 = .ok () := by
  rw [FileTree.write_fst_eq_ok_iff, FileTree.write_fst_eq_ok_iff]
  simp only [h.target_eq_ok_iff]

/-- A file of a tree holds a text now, and no other place and no other path leads
to anything else than before. -/
structure Replaced (home : Home) (tree tree' : FileTree) (path : Path) (content : Text) : Prop where
  holds : ∃ bytes characters, tree'.look path home = .ok (.file bytes)
    ∧ Utf8.encode content = .ok bytes
    ∧ Utf8.decode bytes = .ok characters ∧ Text.ofChars characters = content
  places : ∀ place, tree.locate home path ≠ .ok place → tree'.node? place = tree.node? place
  paths : ∀ other, tree.locate home other ≠ tree.locate home path →
    ∀ node, tree'.look other home = .ok node ↔ tree.look other home = .ok node

/-- Where the same text was written, there is the same file. -/
theorem Replaced.look_eq {home : Home} {tree₁ tree₁' tree₂ tree₂' : FileTree} {path : Path}
    {content : Text}
    (h₁ : Replaced home tree₁ tree₁' path content) (h₂ : Replaced home tree₂ tree₂' path content) :
    tree₁'.look path home = tree₂'.look path home := by
  obtain ⟨bytes₁, -, hlook₁, hencode₁, -⟩ := h₁.holds
  obtain ⟨bytes₂, -, hlook₂, hencode₂, -⟩ := h₂.holds
  rw [hencode₁] at hencode₂
  cases hencode₂
  rw [hlook₁, hlook₂]

theorem replaced_of_write {tree tree' : FileTree} {home : Home} {path : Path} {content : Text}
    (h : tree.write home path content = (.ok (), tree')) :
    Replaced home tree tree' path content := by
  obtain ⟨place, bytes, htarget, hbytes, rfl⟩ := write_eq_ok_iff.mp h
  obtain ⟨-, hlocate, hnode⟩ := target_eq_ok_iff.mp htarget
  have hfilled := filled_set hnode bytes
  obtain ⟨characters, hcontent, hdecode⟩ := Utf8.decode_of_encode hbytes
  refine ⟨⟨bytes, characters, look_of_target htarget hfilled, hbytes, hdecode, hcontent.symm⟩,
    fun other hother => ?_, fun other hother node => ?_⟩
  · refine hfilled.others other fun heq => hother ?_
    rw [heq, hlocate]
  · rw [hlocate] at hother
    exact (hfilled.look_other home hother).eq_ok_iff

end SecurityRules.FileTree
