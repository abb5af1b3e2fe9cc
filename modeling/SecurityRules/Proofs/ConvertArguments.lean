import SecurityRules.Command.Invocation

/-!
# Arguments that ask for a conversion

The arguments are a command, a file and an option with its value. Where the
value does not start with a dash, they are understood in one way only: the file
is the schema to convert and the value is the output. A file that starts with a
dash may be taken for something else, but then no schema is left over and the
arguments are not understood at all.
-/

namespace SecurityRules

/-- A text that cannot be taken for an option. -/
def Text.IsUndashed (t : Text) : Prop :=
  t.head? ≠ some (.scalar '-')

instance (t : Text) : Decidable t.IsUndashed :=
  inferInstanceAs (Decidable (_ ≠ _))

theorem Text.IsUndashed.after?_eq_none {t : Text} (h : t.IsUndashed) :
    Text.after? "-" t = none := by
  cases t with
  | nil => rfl
  | cons c t =>
      have hne : CodePoint.scalar '-' ≠ c := by
        rintro rfl
        exact h rfl
      exact if_neg hne

theorem Text.IsUndashed.ne_separator {t : Text} (h : t.IsUndashed) : t ≠ separator := by
  rintro rfl
  exact h rfl

namespace Grammar

variable {g : Grammar}

theorem readArgument_of_isUndashed {argument : Text} (h : argument.IsUndashed) :
    g.readArgument argument = .ok .operand := by
  rw [readArgument, h.after?_eq_none]
  rfl

theorem readArguments_cons {argument : Text} (h : argument ≠ separator) (rest : List Text) :
    g.readArguments (argument :: rest) = match g.readArgument argument with
      | .error misuse => .error misuse
      | .ok reading =>
          (g.readArguments rest).map ((argument, reading) :: ·) := by
  rw [readArguments, if_neg h]
  cases g.readArgument argument with
  | error misuse => rfl
  | ok reading => cases g.readArguments rest <;> rfl

/-- Each reading keeps its argument. -/
theorem map_fst_of_readArguments {arguments : List Text} {readings : List (Text × Reading)}
    (h : g.readArguments arguments = .ok readings) : readings.map Prod.fst = arguments := by
  induction arguments generalizing readings with
  | nil =>
      cases h
      rfl
  | cons argument rest ih =>
      by_cases hseparator : argument = separator
      · rw [readArguments, if_pos hseparator] at h
        cases h
        simp [Function.comp_def]
      · rw [readArguments_cons hseparator] at h
        cases hreading : g.readArgument argument with
        | error misuse =>
            rw [hreading] at h
            cases h
        | ok reading =>
            rw [hreading] at h
            cases hrest : g.readArguments rest with
            | error misuse =>
                rw [hrest] at h
                cases h
            | ok more =>
                rw [hrest] at h
                cases h
                rw [List.map_cons, ih hrest]

theorem takeArguments_skip (found : Found) (readings : List (Text × Reading)) :
    g.takeArguments found readings.length readings = .ok found := by
  induction readings with
  | nil => rfl
  | cons reading readings ih => exact ih

theorem operand_take {found found' : Found} {form : OptionForm} {value : Option Text}
    (h : g.take found form value = .ok found') : found'.operand = found.operand := by
  unfold take at h
  simp only at h
  split at h
  · cases h
  · split at h
    · cases h
    · split at h <;> cases h <;> rfl

/-- Options do not take the place of the operand. -/
theorem operand_takeAll {found found' : Found} {options : List (OptionForm × Option Text)}
    (h : g.takeAll found options = .ok found') : found'.operand = found.operand := by
  induction options generalizing found with
  | nil =>
      cases h
      rfl
  | cons option options ih =>
      obtain ⟨form, value⟩ := option
      rw [takeAll] at h
      cases htake : g.take found form value with
      | error stop =>
          rw [htake] at h
          cases h
      | ok between =>
          rw [htake] at h
          rw [ih h, operand_take htake]

end Grammar

/-- A command takes all arguments after it. -/
theorem mainGrammar_parse {word : Text} (hword : word.IsUndashed) (rest : List Text) :
    mainGrammar.parse (word :: rest) = match mainGrammar.readArguments rest with
      | .error misuse => .error (.misused misuse)
      | .ok _ => .ok { operand := some (word :: rest) } := by
  rw [Grammar.parse, Grammar.readArguments_cons hword.ne_separator,
    Grammar.readArgument_of_isUndashed hword]
  cases hrest : mainGrammar.readArguments rest with
  | error misuse => rfl
  | ok readings =>
      have htake : mainGrammar.takeArguments {} 0 ((word, .operand) :: readings)
          = .ok { operand := some (word :: rest) } := by
        rw [← Grammar.map_fst_of_readArguments hrest]
        exact Grammar.takeArguments_skip _ readings
      simp only [Except.map, htake]
      rfl

/-! ## Converting -/

namespace Command

/-- The output option takes the value after it. -/
theorem takeArguments_output {output : Text} (h : output.IsUndashed) (found : Found) :
    convert.grammar.takeArguments found 0
        [("-o", .option outputOption "-o" none), (output, .operand)]
      = .ok { found with values := (.output, some output) :: found.values } := by
  have htake : convert.grammar.takeAll found [(outputOption, some output)]
      = .ok { found with values := (.output, some output) :: found.values } := by
    have hvalue : (if output = separator then none else some output) = some output :=
      if_neg h.ne_separator
    simp [Grammar.takeAll, Grammar.take, outputOption, Switch.rival?, hvalue]
  have hspread : convert.grammar.spread outputOption "-o" none
      = .ok { pending := some outputOption } := rfl
  rw [Grammar.takeArguments, hspread]
  simp only [List.nil_append, htake]
  rfl

/-- What is taken for an option takes no place, and neither does the output. -/
theorem operand_takeArguments_option {file output : Text} (houtput : output.IsUndashed)
    {form : OptionForm} {spelling : Text} {attached : Option Text} {found : Found}
    (h : convert.grammar.takeArguments {} 0
        [(file, .option form spelling attached), ("-o", .option outputOption "-o" none),
          (output, .operand)] = .ok found) : found.operand = none := by
  rw [Grammar.takeArguments] at h
  cases hspread : convert.grammar.spread form spelling attached with
  | error misuse =>
      rw [hspread] at h
      cases h
  | ok options =>
      rw [hspread] at h
      obtain ⟨options, pending⟩ := options
      cases pending with
      | some form => cases h
      | none =>
          simp only at h
          cases htake : convert.grammar.takeAll {} options with
          | error stop =>
              rw [htake] at h
              cases h
          | ok between =>
              rw [htake] at h
              simp only [takeArguments_output houtput] at h
              cases h
              exact Grammar.operand_takeAll htake

theorem readArguments_output {output : Text} (h : output.IsUndashed) :
    convert.grammar.readArguments ["-o", output]
      = .ok [("-o", .option outputOption "-o" none), (output, .operand)] := by
  have hoption : convert.grammar.readArgument "-o" = .ok (.option outputOption "-o" none) := rfl
  rw [Grammar.readArguments_cons (by decide), hoption, Grammar.readArguments_cons h.ne_separator,
    Grammar.readArgument_of_isUndashed h]
  rfl

theorem parse_convert_of_operand {file output : Text} (houtput : output.IsUndashed)
    (hfile : file ≠ separator) (hreading : convert.grammar.readArgument file = .ok .operand) :
    convert.grammar.parse [file, "-o", output]
      = .ok { operand := some [file], values := [(.output, some output)] } := by
  have htake : convert.grammar.takeArguments {} 0 ((file, .operand)
      :: [("-o", .option outputOption "-o" none), (output, .operand)])
      = .ok { operand := some [file], values := [(.output, some output)] } :=
    takeArguments_output houtput { operand := some [file] }
  rw [Grammar.parse, Grammar.readArguments_cons hfile, hreading, readArguments_output houtput]
  simp only [Except.map, htake]
  rfl

/-- The file is the schema, or else arguments are left over or the schema is
missing. -/
theorem parse_convert (file : Text) {output : Text} (houtput : output.IsUndashed) :
    convert.grammar.parse [file, "-o", output]
        = .ok { operand := some [file], values := [(.output, some output)] }
      ∨ ∀ found, convert.grammar.parse [file, "-o", output] = .ok found → found.extras ≠ [] := by
  by_cases hfile : file = separator
  · -- the option becomes the schema and its value is left over
    right
    rw [hfile]
    rintro found ⟨⟩
    nofun
  · cases hreading : convert.grammar.readArgument file with
    | error misuse =>
        rw [Grammar.parse, Grammar.readArguments_cons hfile, hreading]
        exact Or.inr nofun
    | ok reading =>
        cases reading with
        | operand => exact Or.inl (parse_convert_of_operand houtput hfile hreading)
        | separator =>
            rw [Grammar.parse, Grammar.readArguments_cons hfile, hreading,
              readArguments_output houtput]
            right
            rintro found ⟨⟩
            nofun
        | unknown =>
            have htake : convert.grammar.takeArguments {} 0 ((file, .unknown)
                :: [("-o", .option outputOption "-o" none), (output, .operand)])
                = .ok { extras := [file], values := [(.output, some output)] } :=
              takeArguments_output houtput { extras := [file] }
            rw [Grammar.parse, Grammar.readArguments_cons hfile, hreading,
              readArguments_output houtput]
            simp only [Except.map, htake]
            exact Or.inr nofun
        | option form spelling attached =>
            rw [Grammar.parse, Grammar.readArguments_cons hfile, hreading,
              readArguments_output houtput]
            right
            intro found hfound
            simp only [Except.map] at hfound
            split at hfound
            · cases hfound
            · next taken htake =>
                simp only [operand_takeArguments_option houtput htake] at hfound
                cases hfound

end Command

namespace Invocation

variable {file output : Text}

/-- Arguments that ask for a conversion ask for this one. -/
theorem eq_convert_of_ofArguments (houtput : output.IsUndashed) {i : Invocation}
    (h : ofArguments ["convert", file, "-o", output] = .ok i) :
    i = { task := .convert file (some output) } := by
  have hcommand : Command.ofWord? "convert" = some .convert := by decide
  rw [ofArguments, mainGrammar_parse (by decide)] at h
  cases hread : mainGrammar.readArguments [file, "-o", output] with
  | error misuse =>
      rw [hread] at h
      cases h
  | ok readings =>
      rw [hread] at h
      simp only [hcommand] at h
      rcases Command.parse_convert file houtput with hparse | hextras
      · rw [hparse] at h
        cases h
        rfl
      · cases hparse : Command.convert.grammar.parse [file, "-o", output] with
        | error stop =>
            rw [hparse] at h
            cases h
        | ok found =>
            rw [hparse] at h
            simp only [List.nil_append] at h
            split at h
            · next hnone => exact absurd hnone (hextras found hparse)
            · cases h

/-- A file that does not start with a dash can be converted. -/
theorem ofArguments_convert (hfile : file.IsUndashed) (houtput : output.IsUndashed) :
    ofArguments ["convert", file, "-o", output] = .ok { task := .convert file (some output) } := by
  have hcommand : Command.ofWord? "convert" = some .convert := by decide
  have hunknown : mainGrammar.readArgument "-o" = .ok .unknown := rfl
  have hread : mainGrammar.readArguments [file, "-o", output]
      = .ok [(file, .operand), ("-o", .unknown), (output, .operand)] := by
    rw [Grammar.readArguments_cons hfile.ne_separator, Grammar.readArgument_of_isUndashed hfile,
      Grammar.readArguments_cons (by decide), hunknown,
      Grammar.readArguments_cons houtput.ne_separator,
      Grammar.readArgument_of_isUndashed houtput]
    rfl
  rw [ofArguments, mainGrammar_parse (by decide), hread]
  simp only [hcommand, Command.parse_convert_of_operand houtput hfile.ne_separator
    (Grammar.readArgument_of_isUndashed hfile)]
  rfl

end Invocation

end SecurityRules
