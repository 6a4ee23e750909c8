import CommandLine.Proofs.Check.Anchored
import CommandLine.Proofs.Check.Sorted
import CommandLine.Proofs.Report.Guarded
import Mathlib.Control.Monad.Basic

/-!
# Snippets and locations

A snippet has two lines.  The first shows a line of the source behind its number, the second
a mark under the place, and the bars of both stand under each other.  The line is the one that
the location of the place tells, and the mark starts under the character that it tells
(`snippet_agrees_with_location`).  All that a check of a parsed source reports has a snippet.
-/

set_option autoImplicit false

namespace CommandLine

open Text (Unbroken Lined bytes Boundary)

namespace Excerpt

def textLine (excerpt : Excerpt) : String :=
  toString excerpt.number ++ " | " ++ String.ofList excerpt.line

section

variable (width : List Char → Nat)

/-- The mark under a place: a caret behind as many columns as the line has before the place,
and a dash for each further column of the place. -/
def markLine (excerpt : Excerpt) (label : String) : String :=
  Text.spaces (toString excerpt.number).length ++ " | " ++
    (Text.spaces (width excerpt.lead) ++ "^" ++
      String.ofList (List.replicate (max (width excerpt.covered) 1 - 1) '-') ++ " " ++ label)

theorem render_eq_ofLines (excerpt : Excerpt) (label : String) :
    excerpt.render width label = Text.ofLines [excerpt.textLine, excerpt.markLine width label] := by
  rw [render_eq, textLine, markLine]
  simp [Text.ofLines, String.append_assoc]

theorem unbroken_markLine {excerpt : Excerpt} {label : String} (single : Unbroken label) :
    Unbroken (excerpt.markLine width label) := by
  have caret : Unbroken "^" := by decide
  have blank : Unbroken " " := by decide
  have bar : Unbroken " | " := by decide
  have dashes (count : Nat) : Unbroken (String.ofList (List.replicate count '-')) := by
    simp [Unbroken]
  simp only [markLine, Text.unbroken_append_iff, Text.unbroken_spaces, caret, blank, bar, dashes,
    single, and_self]

theorem lined_render {source label : String} {span : Span} {excerpt : Excerpt}
    (fits : excerpt.Fits source span) (single : Unbroken label) :
    Lined [excerpt.textLine, excerpt.markLine width label] (excerpt.render width label) := by
  have whole : '\n' ∉ excerpt.line :=
    Text.newline_not_mem_of_mem_splitOn (List.mem_of_getElem? fits.line)
  have text : Unbroken excerpt.textLine := by
    rw [textLine, Text.unbroken_append_iff, Text.unbroken_append_iff]
    exact ⟨⟨Text.unbroken_toString _, by decide⟩, by rwa [Unbroken, String.toList_ofList]⟩
  rw [render_eq_ofLines, Text.lined_ofLines_iff]
  simp only [List.mem_cons, List.not_mem_nil, or_false, forall_eq_or_imp, forall_eq]
  exact ⟨text, unbroken_markLine width single⟩

theorem idxOf_bar {gutter : String} (plain : '|' ∉ gutter.toList) (rest : String) :
    (gutter ++ " | " ++ rest).toList.idxOf '|' = gutter.length + 1 := by
  have bar : (" | " ++ rest).toList.idxOf '|' = 1 := by
    simp
  rw [String.append_assoc, String.toList_append, List.idxOf_append, if_neg plain, bar,
    String.length_toList, Nat.add_comm]

theorem bars_aligned (excerpt : Excerpt) (label : String) :
    excerpt.textLine.toList.idxOf '|' = (excerpt.markLine width label).toList.idxOf '|' := by
  have digits : '|' ∉ (toString excerpt.number).toList := by
    intro member
    cases Text.isDigit_of_mem_toString member
  have blanks : '|' ∉ (Text.spaces (toString excerpt.number).length).toList := by
    simp [Text.spaces]
  rw [textLine, markLine, idxOf_bar digits, idxOf_bar blanks, Text.length_spaces]

end

end Excerpt

/-- A text shows the line of a source on which a span starts, and marks the span in it. -/
def Report.Shows (width : List Char → Nat) (source : String) (span : Span)
    (label text : String) : Prop :=
  ∃ excerpt : Excerpt, excerpt.Fits source span ∧
    Lined [excerpt.textLine, excerpt.markLine width label] text ∧
    excerpt.textLine.toList.idxOf '|' = (excerpt.markLine width label).toList.idxOf '|'

theorem Report.exists_snippet?_eq_ok {overflow : Overflow} {source label : String} {span : Span}
    (width : List Char → Nat) (single : Unbroken label)
    (fits : span.position + span.length < UInt64.size) :
    ∃ shown, snippet? width overflow source span label = .ok shown ∧
      (shown.isSome = true ↔
        Boundary source.toList (span.shownStart source) ∧
          Boundary source.toList (span.shownStop source)) ∧
      ∀ text, shown = some text → Shows width source span label text := by
  obtain ⟨found, cut⟩ :=
    (Excerpt.exists_ofSpan?_eq_ok_iff overflow source span).2 fun _ => .inr fits
  refine ⟨found.map fun excerpt => excerpt.render width label, by rw [snippet?, cut]; rfl, ?_, ?_⟩
  · rw [Option.isSome_map]
    exact Excerpt.isSome_of_ofSpan? fits cut
  · intro text shown
    obtain ⟨excerpt, rfl, rfl⟩ := Option.map_eq_some_iff.1 shown
    have shows := Excerpt.fits_of_ofSpan? fits cut
    exact ⟨excerpt, shows, Excerpt.lined_render width shows single,
      excerpt.bars_aligned width label⟩

theorem Span.Marks.boundaries {span : Span} {source : String} (marks : span.Marks source) :
    Boundary source.toList (span.shownStart source) ∧
      Boundary source.toList (span.shownStop source) := by
  have inside := Nat.le_trans span.position_le_stop marks.stop_le
  have start : span.shownStart source = span.position := Nat.min_eq_left inside
  obtain ⟨front, back, whole, position⟩ := marks.start
  obtain ⟨earlier, later, around, -, -⟩ := Text.exists_lineAround whole position
  rw [shownStop, shownUpTo, start]
  refine ⟨marks.start, ?_⟩
  rcases Nat.le_total span.stop (Text.lineStop source.toList span.position) with before | behind
  · rw [Nat.min_eq_left before, Nat.max_eq_right span.position_le_stop]
    exact marks.stop
  · rw [Nat.min_eq_right behind, Nat.max_eq_right around.le_lineStop]
    exact around.boundary_lineStop

theorem Violation.unbroken_label (violation : Violation) : Unbroken violation.label := by
  cases violation <;> decide

/-- A snippet is found wherever the source can be cut at both of its ends, and never fails to
be computed in machine words, whatever is taken for the width of a text.  It shows what the
location of its span tells, and whatever a check of a parsed source reports has one. -/
theorem Report.snippet_agrees_with_location (width : List Char → Nat) (overflow : Overflow)
    {source label : String} {span : Span} (single : Unbroken label)
    (fits : span.position + span.length < UInt64.size) :
    ∃ shown, snippet? width overflow source span label = .ok shown ∧
      (2 * bytes source.toList < UInt64.size →
        guardedSnippet width overflow source span label = .ok shown) ∧
      (shown.isSome = true ↔
        Boundary source.toList (span.shownStart source) ∧
          Boundary source.toList (span.shownStop source)) ∧
      (∀ text, shown = some text → Shows width source span label text) ∧
      ∀ settings tree grammar, Tree.parse settings source = .ok tree →
        bytes source.toList < UInt64.size →
          ∀ diagnostic ∈ check grammar tree, Unbroken diagnostic.violation.label ∧
            ∃ text, snippet? width overflow source diagnostic.span diagnostic.violation.label =
              .ok (some text) := by
  obtain ⟨shown, found, isSome, shows⟩ := exists_snippet?_eq_ok width single fits
  refine ⟨shown, found, ?_, isSome, shows, ?_⟩
  · intro small
    rw [guardedSnippet_eq_snippet? width overflow label small, found]
  · intro settings tree grammar parsed words diagnostic reported
    have parts := PartsLocated.of_tree (Tree.located_of_parse parsed)
    have marks := (Level.placed_of_violation parts (List.mem_mergeSort.1 reported)).marks
    have line := diagnostic.violation.unbroken_label
    obtain ⟨shown, found, isSome, -⟩ := exists_snippet?_eq_ok width line (marks.fits words)
    obtain ⟨text, rfl⟩ := Option.isSome_iff_exists.1 (isSome.2 marks.boundaries)
    exact ⟨line, text, found⟩

theorem Report.snippet_agrees_with_location_of_long_span :
    let width : List Char → Nat := fun text =>
      text.length + text.countP fun char => char == '日' || char == '本'
    let source := "tool\n日本 --x\n"
    let span : Span := ⟨12, 100⟩
    let label := "unknown option"
    let text := "2 | 日本 --x\n  |      ^-- unknown option\n"
    let command : CommandUse := ⟨"日本", ⟨5, 6⟩, [], [⟨"x", ⟨12, 3⟩, .long, none⟩]⟩
    let tree : Tree := ⟨source, ⟨⟨"tool", false⟩, ⟨0, 4⟩⟩, [command], []⟩
    let diagnostic : Diagnostic := .unknownCommand "日本" ⟨5, 10⟩
    Unbroken label ∧ span.position + span.length < UInt64.size ∧
      2 * bytes source.toList < UInt64.size ∧
      snippet? width .trap source span label = .ok (some text) ∧
      guardedSnippet width .trap source span label = .ok (some text) ∧
      Shows width source span label text ∧
      ∃ grammar, Tree.parse {} source = .ok tree ∧ check grammar tree = [diagnostic] ∧
        ∃ shown, snippet? width .trap source diagnostic.span diagnostic.violation.label =
          .ok (some shown) := by
  intro width source span label text command tree diagnostic
  have single : Unbroken label := by decide
  have fits : span.position + span.length < UInt64.size := by decide
  have small : 2 * bytes source.toList < UInt64.size := by decide
  have found : snippet? width .trap source span label = .ok (some text) := by decide +kernel
  obtain ⟨shown, same, guarded, -, shows, reported⟩ :=
    snippet_agrees_with_location width .trap single fits
  obtain rfl : shown = some text := by rwa [found, Except.ok.injEq, eq_comm] at same
  have faultless : (⟨.zeroOrMultiple, [], []⟩ : Level).fault? = none := by decide
  have parsed : Tree.parse {} source = .ok tree := by
    rw [Tree.parse_eq_ofLexed]
    decide +kernel
  have checked : check ⟨_, faultless⟩ tree = [diagnostic] := by
    rw [check_eq_insertionSort]
    decide +kernel
  have member : diagnostic ∈ check ⟨_, faultless⟩ tree := by
    rw [checked]
    exact List.mem_cons_self
  exact ⟨single, fits, small, found, guarded small, shows text rfl, ⟨_, faultless⟩, parsed,
    checked, (reported _ _ _ parsed (by decide) diagnostic member).2⟩

end CommandLine
