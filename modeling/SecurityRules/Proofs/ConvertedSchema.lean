import SecurityRules.Proofs.ChangedFiles
import SecurityRules.Proofs.ConvertArguments
import SecurityRules.Proofs.SchemaFile

/-!
# A converted schema stands for the schema it was made from

Converting a schema changes one place of the file tree, and what is loaded from
there afterwards is the schema that was loaded before. Everything else that a
task looks at is where it was, unless the settings are what was overwritten. So
no task can tell the converted schema from the original one, and converting it
once more writes what is already there.
-/

namespace SecurityRules

/-! ## Runs on the tree before and after -/

/-- Two traces with the same outputs. They end with the same code if one of them
ends with a code at all, but they may fail in different ways. -/
structure SameRun (r r' : Except Failure ExitCode × List Output) : Prop where
  outputs : r'.2 = r.2
  code : ∀ code, r'.1 = .ok code ↔ r.1 = .ok code

theorem sameRun_of_eq {r r' : Except Failure ExitCode × List Output} (h : r' = r) : SameRun r r' :=
  ⟨congrArg Prod.snd h, fun _ => by rw [h]⟩

theorem InputFault.trace_ending_eq (fault : InputFault) (host : Host) (tree tree' : FileTree) :
    (fault.ending host.console).trace host tree'
      = (fault.ending host.console).trace host tree := by
  rw [fault.trace_ending, fault.trace_ending]

section

variable {host : Host} {place : Location} {bytes : Bytes} {tree tree' : FileTree}
  (h : FileTree.Filled place bytes tree tree')

include h

theorem Settings.find_of_filled {config : Option Text}
    (hpath : tree.locate host.home (Settings.path config) ≠ .ok place) :
    Settings.find host tree' config = Settings.find host tree config := by
  unfold Settings.find
  unfold Settings.path at hpath
  cases hgiven : given config with
  | some file =>
      rw [hgiven] at hpath
      simp only
      rcases h.look_other host.home hpath with hlook | ⟨hmissing, hfile⟩
      · rw [hlook]
      · rw [hmissing, hfile]
        rfl
  | none =>
      rw [hgiven] at hpath
      simp only
      rcases h.look_other host.home hpath with hlook | ⟨hmissing, hfile⟩
      · rw [hlook]
      · rw [hmissing, hfile]

theorem Invocation.sameRun_delivery (document : Text) (output : Option Text) :
    SameRun ((delivery host.console document output).trace host tree)
      ((delivery host.console document output).trace host tree') := by
  cases output with
  | none => exact sameRun_of_eq rfl
  | some file =>
      have hiff : (tree'.write host.home (.ofText file) (document ++ "\n")).1 = .ok ()
          ↔ (tree.write host.home (.ofText file) (document ++ "\n")).1 = .ok () :=
        h.write_fst_eq_ok_iff
      rw [trace_delivery_some, trace_delivery_some]
      cases hbefore : (tree.write host.home (.ofText file) (document ++ "\n")).1 with
      | ok done =>
          rw [hiff.mpr hbefore]
          exact sameRun_of_eq rfl
      | error fault =>
          cases hafter : (tree'.write host.home (.ofText file) (document ++ "\n")).1 with
          | ok done =>
              rw [hiff.mp hafter] at hbefore
              cases hbefore
          | error fault' => exact ⟨rfl, fun code => ⟨nofun, nofun⟩⟩

end

/-! ## Tasks on one schema in two files -/

/-- A file without a name is the current directory, and no schema. -/
theorem Schema.ne_nil_of_loadFile {tree : FileTree} {file : Text} {s : Schema}
    (h : Schema.loadFile host tree file = .ok s) : file ≠ [] := by
  rintro rfl
  cases h

theorem given_some {t : Text} (h : t ≠ []) : given (some t) = some t := by
  cases t with
  | nil => exact absurd rfl h
  | cons c t => rfl

/-- A schema in one file before and in another file after. -/
structure MovedSchema (host : Host) (tree tree' : FileTree) (file file' : Text) : Prop where
  filled : ∃ place bytes, FileTree.Filled place bytes tree tree'
    ∧ tree.locate host.home (.ofText file') = .ok place
  loaded : ∃ s, Schema.loadFile host tree file = .ok s ∧ Schema.loadFile host tree' file' = .ok s

namespace MovedSchema

variable {host : Host} {tree tree' : FileTree} {file file' : Text}
  (h : MovedSchema host tree tree' file file')

include h

/-- The same settings are found, and the same schema with them. -/
theorem loadInput_eq {config : Option Text}
    (hconfig : tree.locate host.home (Settings.path config)
      ≠ tree.locate host.home (.ofText file')) :
    loadInput host tree' config (some file') = loadInput host tree config (some file) := by
  obtain ⟨place, bytes, hfilled, hlocate⟩ := h.filled
  obtain ⟨s, hbefore, hafter⟩ := h.loaded
  rw [hlocate] at hconfig
  unfold loadInput
  rw [Settings.find_of_filled hfilled hconfig, given_some (Schema.ne_nil_of_loadFile hbefore),
    given_some (Schema.ne_nil_of_loadFile hafter)]
  simp only [Option.getD_some, hbefore, hafter]

theorem sameRun_compile {i j : Invocation} {output : Option Text} {indent : IndentChoice}
    {strict : Bool}
    (hconfig : tree.locate host.home (Settings.path i.config)
      ≠ tree.locate host.home (.ofText file'))
    (hsame : j.config = i.config) (hi : i.task = .compile (some file) output indent strict)
    (hj : j.task = .compile (some file') output indent strict) :
    SameRun ((i.action host).trace host tree) ((j.action host).trace host tree') := by
  obtain ⟨place, bytes, hfilled, -⟩ := h.filled
  rw [Invocation.trace_compile hi, Invocation.trace_compile hj, hsame, h.loadInput_eq hconfig]
  cases loadInput host tree i.config (some file) with
  | error fault => exact sameRun_of_eq (fault.trace_ending_eq host tree tree')
  | ok input =>
      obtain ⟨settings, s⟩ := input
      simp only
      split
      · exact sameRun_of_eq rfl
      · split
        · exact sameRun_of_eq rfl
        · exact Invocation.sameRun_delivery hfilled _ _

theorem trace_check_eq {i j : Invocation}
    (hconfig : tree.locate host.home (Settings.path i.config)
      ≠ tree.locate host.home (.ofText file'))
    (hsame : j.config = i.config) (hi : i.task = .check (some file))
    (hj : j.task = .check (some file')) :
    (j.action host).trace host tree' = (i.action host).trace host tree := by
  rw [Invocation.trace_check hi, Invocation.trace_check hj, hsame, h.loadInput_eq hconfig]
  cases loadInput host tree i.config (some file) with
  | error fault => exact fault.trace_ending_eq host tree tree'
  | ok input => rfl

end MovedSchema

/-! ## Conversions -/

/-- A schema is saved in a file: where the file stands, what it holds, and that
there are words to say so. -/
structure SavedSchema (host : Host) (tree tree' : FileTree) (output : Text) (s : Schema)
    (place : Location) (bytes : Bytes) : Prop where
  target : tree.target host.home (.ofText output) = .ok place
  encoded : Utf8.encode (s.dump Schema.defaultLayout ++ "\n") = .ok bytes
  after : tree' = tree.set place (.file bytes)
  announced : ∃ page, Invocation.Announces host.console output page

namespace SavedSchema

variable {host : Host} {tree tree' : FileTree} {file output : Text} {s : Schema}
  {place : Location} {bytes : Bytes}

/-- A conversion that ends well saves the schema. -/
theorem of_execute {arguments : List Text} {i : Invocation} {world : World}
    (hi : Invocation.ofArguments arguments = .ok i)
    (htask : i.task = .convert file (some output)) (houtput : output ≠ [])
    (h : execute host tree arguments = (.finished 0, world)) :
    ∃ s place bytes, Schema.loadFile host tree file = .ok s
      ∧ SavedSchema host tree world.tree output s place bytes := by
  have h₀ := (execute_eq_finished_of_ok hi).mp (congrArg Prod.fst h)
  obtain ⟨s, hloaded, htrace⟩ := Invocation.convert_eq_zero htask h₀
  rw [given_some houtput] at htrace
  rw [htrace] at h₀
  obtain ⟨-, written, page, hwrite, hpage, houtputs⟩ := Invocation.delivery_eq_ok h₀
  obtain ⟨place, bytes, htarget, hbytes, hwritten⟩ := FileTree.write_eq_ok_iff.mp hwrite
  have hworld : world.tree = written := by
    have htree := tree_execute host tree arguments
    rw [h, outputs_of_ok hi, htrace, houtputs] at htree
    rw [htree]
    simp only [List.foldl_cons, List.foldl_nil, Output.apply, hwrite]
  exact ⟨s, place, bytes, hloaded, htarget, hbytes, hworld.trans hwritten, page, hpage⟩

variable (h : SavedSchema host tree tree' output s place bytes)

include h

theorem filled : FileTree.Filled place bytes tree tree' := by
  rw [h.after]
  exact FileTree.filled_set (FileTree.target_eq_ok_iff.mp h.target).2.2 bytes

theorem look_eq : tree'.look (.ofText output) host.home = .ok (.file bytes) :=
  FileTree.look_of_target h.target h.filled

theorem loadFile_eq (hs : ∀ m ∈ s, m.Holds Json.Readable)
    (hstack : host.stack.exhaustedBy .json (s.dump Schema.defaultLayout ++ "\n") = false) :
    Schema.loadFile host tree' output = .ok s := by
  rw [Schema.loadFile, h.look_eq]
  exact Schema.ofFile_of_encode_dump hs h.encoded hstack _

/-- Saving the schema again changes nothing. -/
theorem again : SavedSchema host tree' tree' output s place bytes := by
  have hnode := (FileTree.target_eq_ok_iff.mp h.target).2.2
  have habove : place.isAbove = false := Bool.eq_false_iff.mpr fun habove => hnode (if_pos habove)
  exact ⟨h.filled.target_eq_ok_iff.mpr h.target, h.encoded,
    (FileTree.set_eq_self habove h.filled.after).symm, h.announced⟩

/-- A schema that can be saved is converted. -/
theorem execute_eq {arguments : List Text} {i : Invocation}
    (hi : Invocation.ofArguments arguments = .ok i)
    (htask : i.task = .convert file (some output)) (houtput : output ≠ [])
    (hloaded : Schema.loadFile host tree file = .ok s) :
    (execute host tree arguments).1 = .finished 0
      ∧ (execute host tree arguments).2.tree = tree' := by
  obtain ⟨page, hpage⟩ := h.announced
  have hwrite := FileTree.write_eq_ok_iff.mpr ⟨place, bytes, h.target, h.encoded, h.after⟩
  have htrace : (i.action host).trace host tree = (.ok 0,
      [.write (.ofText output) (s.dump Schema.defaultLayout ++ "\n"), .print page]) := by
    rw [Invocation.trace_convert htask, hloaded, given_some houtput]
    exact Invocation.trace_delivery_of_write hwrite hpage
  rw [execute_eq_finished_of_ok hi, tree_execute, outputs_of_ok hi, htrace]
  refine ⟨rfl, ?_⟩
  simp only [List.foldl_cons, List.foldl_nil, Output.apply, hwrite]

end SavedSchema

/-- A model with a length and a reference. -/
def limitedModel : Model :=
  { name := "a",
    fields := [{ name := "f", rules := [("maxLength", .int 7), ("type", .string "b")] }] }

/-- The model as a flattened schema, with the line breaks of another system and the
length in quotes. -/
def flattenedFile : FileTree :=
  let models := "\x7b\r\n\"a\": \x7b\"f\": \x7b\"maxLength\": \" 7 \", \"type\": \"b\"\x7d\x7d\x7d"
  [(["f"], .file (models.toList.map fun c => c.toNat.toUInt8))]

end SecurityRules
