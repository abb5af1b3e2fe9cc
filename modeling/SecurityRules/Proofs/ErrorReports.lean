import SecurityRules.Command.Run
import SecurityRules.Proofs.EscapedMarkup

/-!
# Errors are shown

The program shows an error inside of a tag that makes it red, and escapes the
message so that no part of it is taken for a tag. `printError_eq` says that this
works for every message: printing an error is printing a page. `reports_errorPage`
says what is on it: "Error:" at its start, no lone half that the message has not,
and the message itself if it fits the console and has nothing in it to be replaced
or taken for an escape.
-/

namespace SecurityRules

namespace Markup

/-! ## What comes first -/

theorem head_piecesFrom {opening : Text} (hopening : opening ≠ []) (t : Text)
    (position slashes : Nat) (plain : Text) :
    ∃ more pieces, piecesFrom position slashes 0 (opening ++ plain) t
      = .plain (opening ++ more) :: pieces := by
  have hplain : ∀ rest : Text, plainPiece (opening ++ rest) = [.plain (opening ++ rest)] := by
    intro rest
    exact if_neg (by simp [hopening])
  induction t generalizing position slashes plain with
  | nil =>
      rw [piecesFrom, List.append_assoc, hplain]
      exact ⟨_, _, rfl⟩
  | cons c t ih =>
      rw [piecesFrom]
      split
      · exact ih _ _ _
      · split
        · simp only [hplain, List.cons_append]
          exact ⟨_, _, rfl⟩
        · simp only [List.append_assoc]
          exact ih _ _ _

theorem Progress.prefix_read {console : Console} {pieces : List Piece} {p p' : Progress}
    (h : p.read console pieces = .ok p') : p.text <+: p'.text := by
  induction pieces generalizing p with
  | nil =>
      cases h
      exact List.prefix_rfl
  | cons piece pieces ih =>
      cases piece with
      | plain t => exact (List.prefix_append _ _).trans (ih h)
      | tag position inside =>
          rw [Progress.read] at h
          split at h
          · cases h
          · next q hq =>
              rw [← text_tag hq]
              exact ih h

/-! ## Errors in red -/

theorem isStyle_red : IsStyle "red" where
  normal := by decide +kernel
  trimmed := by decide
  bare := by decide
  first := rfl
  closing _ := rfl

theorem pieces_error (t : Text) :
    pieces ("[red]Error: " ++ t) = .tag 0 "red" :: piecesFrom 12 0 0 "Error: " t := rfl

variable (console : Console)

theorem clean_shown_error (t : Text) :
    console.clean (shown ("Error: " ++ t)) = "Error: " ++ console.clean (shown t) := rfl

/-- Whatever the message, an error starts as one. -/
theorem prefix_render_error {message : Text} {result : StyledText}
    (h : render console ("[red]Error: " ++ message) = .ok result) :
    Text.ofString "Error: " <+: result.text := by
  have hopening : Text.ofString "Error: " ≠ [] := by decide
  obtain ⟨more, rest, hrest⟩ := head_piecesFrom hopening message 12 0 []
  rw [List.append_nil] at hrest
  rw [render, pieces_error, hrest, Progress.read] at h
  split at h
  · cases h
  · next p hp =>
      cases hread : p.read console (.plain ("Error: " ++ more) :: rest) with
      | error fault =>
          rw [hread] at h
          cases h
      | ok p' =>
          rw [hread] at h
          cases h
          have htext := Progress.prefix_read (p := { p with text := p.text ++ _ }) hread
          rw [Progress.text_tag hp, clean_shown_error] at htext
          exact (List.prefix_append (Text.ofString "Error: ") _).trans htext

/-- An error can be rendered, whatever its message. -/
theorem render_error (message : Text) :
    ∃ text, render console ("[red]Error: " ++ escape message ++ "[/red]")
        = .ok { text, spans := [⟨0, text.length, "red"⟩] }
      ∧ Text.ofString "Error: " <+: text
      ∧ (message.getLast? ≠ some (.scalar '\\') → ¬ Text.ofString "\\[" <:+: message →
        console.Keeps ("Error: " ++ message) → text = "Error: " ++ message) := by
  obtain ⟨text, hrender, htext⟩ := render_styled console isStyle_red pieces_error message
  refine ⟨text, hrender, ?_, fun hlast hplain => htext ?_ ?_⟩
  · rw [List.append_assoc] at hrender
    exact prefix_render_error console hrender
  · rintro ⟨before, hbefore⟩
    have h := congrArg List.getLast? hbefore
    rw [List.getLast?_append, List.getLast?_append] at h
    cases hmessage : message.getLast? with
    | none =>
        rw [hmessage] at h
        cases h
    | some last =>
        rw [hmessage] at h
        exact hlast (hmessage.trans h.symm)
  · simpa [Text.ofString, Text.ofChars, List.infix_cons_iff] using hplain

end Markup

/-! ## Pages with errors -/

/-- What a console shows of an error. -/
def Console.errorPage (console : Console) (message : Text) : Text :=
  console.layOut
    (Markup.rendered console ("[red]Error: " ++ Markup.escape message ++ "[/red]"))

/-- The user is told of an error and of nothing else. What is shown is the message as
it is, unless it looks like an escape or the console cannot show it so. -/
structure Reports (console : Console) (message page : Text) : Prop where
  opening : Text.ofString "Error: " <+: page
  whole : message.IsWhole → page.IsWhole
  literal : message.getLast? ≠ some (.scalar '\\') → ¬ Text.ofString "\\[" <:+: message →
    console.Shows ("Error: " ++ message) → page = "Error: " ++ message ++ "\n"

section

variable (console : Console) (message : Text)

/-- Printing an error is printing a page. -/
theorem printError_eq :
    printError console message = .print (console.errorPage message) (.done ()) := by
  obtain ⟨text, hrender, -⟩ := Markup.render_error console message
  have hreadable : StyledText.IsReadable { text, spans := [⟨0, text.length, "red"⟩] } :=
    List.forall_mem_singleton.mpr Markup.isStyle_red.readable
  rw [printError, Action.printMarkup, Console.errorPage, Markup.rendered, hrender]
  simp only [console.page_eq_ok hreadable]
  rfl

theorem reports_errorPage : Reports console message (console.errorPage message) := by
  obtain ⟨text, hrender, hprefix, htext⟩ := Markup.render_error console message
  have heven : StyledText.IsEven { text, spans := [⟨0, text.length, "red"⟩] } :=
    List.forall_mem_singleton.mpr ⟨rfl, rfl⟩
  have hpage : console.errorPage message
      = console.layOut { text, spans := [⟨0, text.length, "red"⟩] } := by
    rw [Console.errorPage, Markup.rendered, hrender]
    rfl
  rw [hpage]
  refine ⟨?_, fun h => ?_, fun hlast hplain hshows => ?_⟩
  · have hword : Text.IsOpening "Error:" := ⟨by decide, by decide⟩
    exact console.prefix_layOut hword (by decide) (heven.leads hprefix)
  · refine Console.isWhole_layOut (Markup.isWhole_render hrender ?_)
    exact Text.isWhole_append.mpr
      ⟨Text.isWhole_append.mpr ⟨by decide, Markup.isWhole_escape h⟩, by decide⟩
  · have hliteral := htext hlast hplain hshows.keeps
    rw [Console.layOut_of_fits heven (hliteral ▸ hshows.fits), hliteral]

/-- An error without lone halves can be printed on every console. -/
theorem refused?_errorPage (h : console.takesHalves ∨ message.IsWhole) :
    console.refused? (console.errorPage message) = none :=
  Console.refused?_eq_none_iff.mpr (h.imp_right (reports_errorPage console message).whole)

end

end SecurityRules
