import SecurityRules.Proofs.ProgramOutputs

/-!
# Where compiled rules end up

A run of the compiling task that ends well has delivered one document, and the
settings and the schema that it was made from can be told from the world that
the run started in.
-/

namespace SecurityRules.Invocation

/-- A document goes to the terminal or into a file, with a line feed at its end. -/
inductive Delivers (host : Host) (document : Text) (w w' : World) : Prop
  | printed (htree : w'.tree = w.tree) (hprinted : w'.printed = w.printed ++ (document ++ "\n"))
  | written (path : Path) (h : w.tree.write host.home path (document ++ "\n") = (.ok (), w'.tree))

theorem delivers_of_delivery {host : Host} {document : Text} {output : Option Text} {w w' : World}
    (h : ((delivery host.console document output).trace host w.tree).1 = .ok 0)
    (htree : w'.tree = ((delivery host.console document output).trace host w.tree).2.foldl
      (Output.apply host) w.tree)
    (hprinted : w'.printed = w.printed
      ++ ((delivery host.console document output).trace host w.tree).2.flatMap Output.shown) :
    Delivers host document w w' := by
  have hdelivered := (delivery_eq_ok h).2
  cases output with
  | none =>
      simp only [hdelivered] at htree hprinted
      refine .printed htree (hprinted.trans ?_)
      simp only [List.flatMap_cons, List.flatMap_nil, List.append_nil, Output.shown]
  | some file =>
      obtain ⟨tree', page, hwrite, -, houtputs⟩ := hdelivered
      refine .written (.ofText file) ?_
      rw [htree, houtputs]
      simp only [List.foldl_cons, List.foldl_nil, Output.apply, hwrite]

/-- When compiling ends well, the document that was delivered is the compiled
schema with its indentation expanded. -/
theorem run_compile {host : Host} {i : Invocation} {schema output : Option Text}
    {indent : IndentChoice} {strict : Bool} (htask : i.task = .compile schema output indent strict)
    {w w' : World} (h : (i.action host).run host w = (.ok 0, w')) :
    ∃ settings between s unit, (i.settings host).run host w = (.ok (.ok settings), between)
      ∧ indent.unit? settings = some unit
      ∧ Schema.ofFile (.ofText ((given schema).getD settings.schemaFile))
          (w.tree.look (.ofText ((given schema).getD settings.schemaFile)) host.home) host.stack
          = .ok s
      ∧ Delivers host (expandIndent unit s.compile) w w' := by
  obtain ⟨hresult, htree, hprinted⟩ := Action.run_eq_trace host (i.action host) w
  rw [h] at hresult htree hprinted
  obtain ⟨settings, s, unit, hinput, hunit, htrace⟩ := compile_eq_zero htask hresult.symm
  obtain ⟨hfound, hloaded⟩ := loadInput_eq_ok_iff.mp hinput
  rw [htrace] at hresult htree hprinted
  have hsettings : ((i.settings host).run host w).1 = .ok (.ok settings) := by
    rw [(Action.run_eq_trace host (i.settings host) w).1, trace_settings, hfound]
  exact ⟨settings, _, s, unit, Prod.ext hsettings rfl, hunit, hloaded,
    delivers_of_delivery hresult.symm htree hprinted⟩

end SecurityRules.Invocation
