import CommandLine.Proofs.Report.Excerpt
import CommandLine.Proofs.Text.Writer
import Mathlib.Control.Monad.Basic

/-!
# The two renderings of a report

A report is rendered as a plain text and as a styled one.  Both have the same layout, in which
only the codes and the last line can be told apart from the rest: `marked`.  The plain text
leaves them as they are, and a writer that is handed the styled text puts its sequences around
them and nowhere else: `renderings_agree`.  The end of a span that is no machine word ends both
renderings at the same place, or wraps in both.
-/

set_option autoImplicit false

namespace CommandLine

open Text (Writer Styled Boundary)

/-! ## Lists of results -/

section

variable {ε α β γ : Type}

theorem map_mapM (run : α → Except ε β) (after : β → γ) (items : List α) :
    (items.mapM run).map (List.map after) = items.mapM fun item => (run item).map after := by
  induction items with
  | nil => rfl
  | cons item rest ih =>
      rw [List.mapM_cons, List.mapM_cons, ← ih]
      cases run item with
      | error trap => rfl
      | ok result => cases rest.mapM run <;> rfl

theorem exists_mapM_eq_ok_iff (run : α → Except ε β) (items : List α) :
    (∃ results, items.mapM run = .ok results) ↔
      ∀ item ∈ items, ∃ result, run item = .ok result := by
  induction items with
  | nil => simp [pure, Except.pure]
  | cons item rest ih =>
      rw [List.forall_mem_cons, ← ih, List.mapM_cons]
      cases run item with
      | error trap => simp [bind, Except.bind]
      | ok result => cases rest.mapM run <;> simp [bind, Except.bind, pure, Except.pure]

theorem exists_map_eq_ok_iff (result : Except ε α) (after : α → β) :
    (∃ value, result.map after = .ok value) ↔ ∃ value, result = .ok value := by
  cases result <;> simp [Except.map]

end

/-! ## Layout -/

namespace Report

section

variable (width : List Char → Nat) (overflow : Overflow) (source : String)

def behindCode (diagnostic : Diagnostic) : Except Trap String :=
  (snippet? width overflow source diagnostic.span diagnostic.violation.label).map fun shown? =>
    location source diagnostic ++ "\n" ++ shown?.elim "" ("\n" ++ ·) ++ "\n"

def marked (markCode markLast : String → String) (diagnostics : List Diagnostic) :
    Except Trap String :=
  (diagnostics.mapM fun diagnostic =>
      (behindCode width overflow source diagnostic).map (markCode (code diagnostic) ++ ·)).map
    fun entries => String.join entries ++
      (summary? diagnostics).elim "" fun summary => markLast (summary ++ "\n")

theorem entry_eq (diagnostic : Diagnostic) :
    entry width overflow source diagnostic =
      (behindCode width overflow source diagnostic).map (code diagnostic ++ ·) := by
  rw [entry, behindCode]
  rcases snippet? width overflow source diagnostic.span diagnostic.violation.label with
    trap | _ | snippet
  · rfl
  · simp [bind, Except.bind, Except.map, pure, Except.pure, String.append_assoc]
  · simp [bind, Except.bind, Except.map, pure, Except.pure, String.append_assoc]

theorem render_eq_marked (diagnostics : List Diagnostic) :
    render width overflow source diagnostics = marked width overflow source id id diagnostics := by
  have entries : entry width overflow source = fun diagnostic =>
      (behindCode width overflow source diagnostic).map (id (code diagnostic) ++ ·) :=
    funext (entry_eq width overflow source)
  rw [render, marked, entries]
  cases summary? diagnostics <;> rfl

theorem output_item (writer : Writer) (diagnostic : Diagnostic) :
    (item width overflow source diagnostic).map
        (fun shown => writer.output (shown ++ [.plain "\n"])) =
      (behindCode width overflow source diagnostic).map
        (writer.around codeStyle (code diagnostic) ++ ·) := by
  rw [item, behindCode]
  rcases snippet? width overflow source diagnostic.span diagnostic.violation.label with
    trap | _ | snippet
  · rfl
  · simp [bind, Except.bind, Except.map, pure, Except.pure, String.append_assoc]
  · simp [bind, Except.bind, Except.map, pure, Except.pure, String.append_assoc]

theorem output_document (writer : Writer) (diagnostics : List Diagnostic) :
    (document width overflow source diagnostics).map writer.output =
      marked width overflow source (writer.around codeStyle) (writer.around summaryStyle)
        diagnostics := by
  rw [document, marked, ← funext (output_item width overflow source writer), ← map_mapM]
  rcases diagnostics.mapM (item width overflow source) with trap | items
  · rfl
  · simp only [bind, Except.bind, Except.map, pure, Except.pure, Writer.output_append,
      Writer.output_flatMap]
    cases summary? diagnostics <;> simp

/-- A report is given up only for the end of a span that is no word. -/
theorem exists_render_eq_ok_iff (diagnostics : List Diagnostic) :
    (∃ text, render width overflow source diagnostics = .ok text) ↔
      ∀ diagnostic ∈ diagnostics,
        Boundary source.toList (diagnostic.span.shownStart source) →
          overflow = .wrap ∨ diagnostic.span.position + diagnostic.span.length < UInt64.size := by
  rw [render_eq_marked, marked, exists_map_eq_ok_iff, exists_mapM_eq_ok_iff]
  simp only [behindCode, snippet?, exists_map_eq_ok_iff, Excerpt.exists_ofSpan?_eq_ok_iff]

/-- A writer that ignores styles sends the plain rendering of a report, and any other writer
the same text with its sequences around each code and around the last line. -/
theorem renderings_agree (diagnostics : List Diagnostic) :
    (document width overflow source diagnostics).map Writer.plain.output =
        render width overflow source diagnostics ∧
      render width overflow source diagnostics =
        marked width overflow source id id diagnostics ∧
      (∀ writer : Writer,
        (document width overflow source diagnostics).map writer.output =
            marked width overflow source (writer.around codeStyle) (writer.around summaryStyle)
              diagnostics ∧
          (document width overflow source diagnostics).map writer.keptOutput =
            render width overflow source diagnostics) ∧
      ((∃ text, render width overflow source diagnostics = .ok text) ↔
        ∀ diagnostic ∈ diagnostics,
          Boundary source.toList (diagnostic.span.shownStart source) →
            overflow = .wrap ∨
              diagnostic.span.position + diagnostic.span.length < UInt64.size) := by
  have plain : (document width overflow source diagnostics).map Writer.plain.output =
      render width overflow source diagnostics := by
    have unmarked (style : Text.Style) : Writer.plain.around style = id := by
      funext text
      simp [Writer.around, Writer.plain]
    rw [output_document, render_eq_marked, unmarked, unmarked]
  refine ⟨plain, render_eq_marked .., ?_, exists_render_eq_ok_iff ..⟩
  intro writer
  constructor
  · exact output_document width overflow source writer diagnostics
  · have kept : writer.keptOutput = Writer.plain.output := by
      funext document
      rw [Writer.keptOutput_eq, Writer.output_plain]
    rw [kept, plain]

end

theorem renderings_agree_of_overlong_span :
    let source := "tool deploy"
    let diagnostics : List Diagnostic := [.unknownCommand "deploy" ⟨5, UInt64.size - 1⟩]
    let header := " at 1:6: unknown command 'deploy'\n\n"
    let snippet := "1 | tool deploy\n  |      ^ unknown command\n\n"
    let text := "error[unknown_command]" ++ header ++ snippet ++ "1 problem found\n"
    let coloured := "\x1b[0m\x1b[1m\x1b[31merror[unknown_command]\x1b[0m" ++ header ++ snippet ++
      "\x1b[0m\x1b[1m1 problem found\n\x1b[0m"
    render List.length .wrap source diagnostics = .ok text ∧
      (document List.length .wrap source diagnostics).map Writer.plain.output = .ok text ∧
      (document List.length .wrap source diagnostics).map Writer.terminal.output = .ok coloured ∧
      (document List.length .wrap source diagnostics).map Writer.terminal.keptOutput = .ok text ∧
      (document List.length .trap source diagnostics).map Writer.plain.output =
        .error .overflow := by
  intro source diagnostics header snippet text coloured
  have wrapped : render List.length .wrap source diagnostics = .ok text := by decide +kernel
  have marked : marked List.length .wrap source (Writer.terminal.around codeStyle)
      (Writer.terminal.around summaryStyle) diagnostics = .ok coloured := by decide +kernel
  have trapped : render List.length .trap source diagnostics = .error .overflow := by
    decide +kernel
  obtain ⟨plain, -, writers, -⟩ := renderings_agree List.length .wrap source diagnostics
  obtain ⟨output, kept⟩ := writers Writer.terminal
  obtain ⟨given, -⟩ := renderings_agree List.length .trap source diagnostics
  exact ⟨wrapped, plain.trans wrapped, output.trans marked, kept.trans wrapped,
    given.trans trapped⟩

end Report

end CommandLine
