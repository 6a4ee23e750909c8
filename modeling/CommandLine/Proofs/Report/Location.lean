import CommandLine.Proofs.Check.Listed
import CommandLine.Proofs.Report.Rendering
import CommandLine.Proofs.Text.Lines
import Mathlib.Data.Prod.Lex

/-!
# Locations in reading order

A location is a line and a column, and locations are read line by line.  A place further on in
a source has a later location (`Span.address_lt_address`), and the place can be told from the
location alone: it lies behind all earlier lines, and behind as many characters of its own line
as the column says (`Text.LineAround.offsetAt?_eq`).  So the headers of a report on a parsed
source, which come by their places, are in the order in which the source is read.
-/

set_option autoImplicit false

namespace CommandLine

open Text (bytes breaks afterLastBreak Boundary LineAround)

namespace Text

/-- The offset that has a line and a column, both counted from one, if the line is long enough.
The earlier lines are in front of it with their newlines. -/
def offsetAt? (text : List Char) (line column : Nat) : Option Nat :=
  match (text.splitOn '\n')[line - 1]? with
  | none => none
  | some own =>
      if column - 1 ≤ own.length then
        let earlier := (text.splitOn '\n').take (line - 1)
        some (bytes (earlier.flatMap fun other => other ++ ['\n']) +
          bytes (own.take (column - 1)))
      else
        none

theorem afterLastBreak_append (front : List Char) {back : List Char} (unbroken : '\n' ∉ back) :
    afterLastBreak (front ++ back) = afterLastBreak front ++ back := by
  have passes : ∀ char ∈ back.reverse, (char != '\n') = true := by
    intro char member
    rw [bne_iff_ne]
    rintro rfl
    exact unbroken (List.mem_reverse.1 member)
  rw [afterLastBreak, List.reverse_append, List.takeWhile_append_of_pos passes,
    List.reverse_append, List.reverse_reverse, afterLastBreak]

namespace LineAround

variable {text earlier lead tail later : List Char} {offset : Nat}
  (around : LineAround text offset earlier lead tail later)
include around

/-- The lines before the line around an offset, with their newlines, are what stands there. -/
theorem flatMap_earlier :
    (((text.splitOn '\n').take (breaks earlier)).flatMap fun line => line ++ ['\n']) =
      earlier := by
  obtain ⟨lines, divided, count, joined⟩ :=
    exists_splitOn_append around.opened (lead ++ (tail ++ later))
  have whole : text = earlier ++ (lead ++ (tail ++ later)) := by
    rw [around.whole, List.append_assoc]
  rw [whole, divided, ← count, List.take_left, joined]

/-- An offset is found again from the newlines before it and from what its line holds before
it. -/
theorem offsetAt?_eq : offsetAt? text (breaks earlier + 1) (lead.length + 1) = some offset := by
  have inside : lead.length ≤ (lead ++ tail).length := by
    rw [List.length_append]
    exact Nat.le_add_right ..
  rw [offsetAt?, Nat.add_sub_cancel, Nat.add_sub_cancel, around.getElem?_splitOn]
  dsimp only
  rw [if_pos inside, around.flatMap_earlier, List.take_left, ← bytes_append, around.position]

end LineAround

end Text

/-! ## Addresses -/

namespace Span

/-- The line and the column at which a span starts, to be compared in this order. -/
def address (span : Span) (source : String) : Nat ×ₗ Nat :=
  toLex (span.line source, span.column source)

variable {source : String} {first second : Span}

/-- Further on, there is a newline more, or else a character more on the same line. -/
theorem address_lt_address (start : Boundary source.toList first.position)
    (further : Boundary source.toList second.position)
    (order : first.position < second.position) :
    first.address source < second.address source := by
  have between : Boundary source.toList (first.position + (second.position - first.position)) := by
    rwa [Nat.add_sub_cancel' (Nat.le_of_lt order)]
  obtain ⟨inside, cut⟩ := (Text.exists_slice?_iff ..).2 ⟨start, between⟩
  obtain ⟨front, back, whole, position, length⟩ := (Text.slice?_eq_some_iff ..).1 cut
  have nonempty : inside ≠ [] := by
    rintro rfl
    rw [Text.bytes_nil] at length
    omega
  have firstBefore : first.before source = front :=
    before_eq (inside ++ back) (by rw [whole, List.append_assoc]) position
  have secondBefore : second.before source = front ++ inside :=
    before_eq back whole (by rw [Text.bytes_append]; omega)
  rw [address, address, Prod.Lex.toLex_lt_toLex]
  simp only [line, column, firstBefore, secondBefore, breaks, List.count_append]
  by_cases newline : '\n' ∈ inside
  · have more := List.count_pos_iff.2 newline
    left
    omega
  · have longer := List.length_pos_iff.2 nonempty
    right
    rw [List.count_eq_zero.2 newline, Text.afterLastBreak_append front newline, List.length_append]
    omega

theorem address_eq_of_position (same : first.position = second.position) (source : String) :
    first.address source = second.address source := by
  have before : first.before source = second.before source := by
    rw [Span.before, Span.before, same]
  rw [address, address, line, line, column, column, before]

theorem address_le_address (start : Boundary source.toList first.position)
    (further : Boundary source.toList second.position)
    (order : first.position ≤ second.position) :
    first.address source ≤ second.address source := by
  rcases Nat.lt_or_eq_of_le order with before | same
  · exact le_of_lt (address_lt_address start further before)
  · exact le_of_eq (address_eq_of_position same source)

theorem offsetAt?_address {span : Span} (start : Boundary source.toList span.position) :
    Text.offsetAt? source.toList (span.line source) (span.column source) =
      some span.position := by
  obtain ⟨front, back, whole, position⟩ := start
  obtain ⟨earlier, later, around, frontEq, -⟩ := Text.exists_lineAround whole position
  have breaks := around.breaks_front
  rw [← frontEq] at breaks
  rw [line, column, before_eq back whole position, breaks]
  exact around.offsetAt?_eq

end Span

/-! ## Headers -/

namespace Report

def headerAt (address : Nat ×ₗ Nat) (diagnostic : Diagnostic) : String :=
  code diagnostic ++ " at " ++ toString (ofLex address).1 ++ ":" ++
    toString (ofLex address).2 ++ ": " ++ diagnostic.message

section

variable (width : List Char → Nat) (overflow : Overflow) (source : String)

def behindHeader (diagnostic : Diagnostic) : Except Trap String :=
  (snippet? width overflow source diagnostic.span diagnostic.violation.label).map fun shown? =>
    "\n" ++ shown?.elim "" ("\n" ++ ·) ++ "\n"

theorem entry_eq_header (diagnostic : Diagnostic) :
    entry width overflow source diagnostic =
      (behindHeader width overflow source diagnostic).map
        (headerAt (diagnostic.span.address source) diagnostic ++ ·) := by
  rw [entry_eq, behindCode, location, headerAt, behindHeader, Span.address, ofLex_toLex]
  cases snippet? width overflow source diagnostic.span diagnostic.violation.label with
  | error trap => rfl
  | ok shown => simp only [Except.map, String.append_assoc]

theorem render_eq_headers (diagnostics : List Diagnostic) :
    render width overflow source diagnostics =
      (diagnostics.mapM fun diagnostic =>
          (behindHeader width overflow source diagnostic).map
            (headerAt (diagnostic.span.address source) diagnostic ++ ·)).map
        fun entries => String.join entries ++ (summary? diagnostics).elim "" (· ++ "\n") := by
  rw [render, funext (entry_eq_header width overflow source)]
  cases summary? diagnostics <;> rfl

theorem exists_render_check_eq_ok {grammar : Grammar} {tree : Tree}
    (listed : Listed source grammar tree) (words : bytes source.toList < UInt64.size) :
    ∃ text, render width overflow source (check grammar tree) = .ok text := by
  rw [exists_render_eq_ok_iff]
  intro diagnostic reported _
  exact .inr ((listed.placed diagnostic reported).marks.fits words)

end

theorem addresses_ascend {source : String} {grammar : Grammar} {tree : Tree}
    (listed : Listed source grammar tree) :
    ((check grammar tree).map fun diagnostic => diagnostic.span.address source).Pairwise
      (· ≤ ·) := by
  rw [List.pairwise_map]
  refine listed.order.sorted.imp_of_mem fun {one next} reported alsoReported order => ?_
  exact Span.address_le_address (listed.placed one reported).marks.start
    (listed.placed next alsoReported).marks.start order

/-- Where places of a source follow each other, so do their lines and columns, and a place is
found again from these.  The headers of a report on a parsed source tell its places in this
order. -/
theorem locations_in_reading_order (source : String) :
    (∀ first second : Span, Boundary source.toList first.position →
        Boundary source.toList second.position →
        (first.position < second.position → first.address source < second.address source) ∧
          (first.address source = second.address source → first.position = second.position)) ∧
      (∀ span : Span, Boundary source.toList span.position →
        Text.offsetAt? source.toList (span.line source) (span.column source) =
          some span.position) ∧
      ∀ settings tree grammar, Tree.parse settings source = .ok tree →
        (∀ width overflow,
          render width overflow source (check grammar tree) =
              ((check grammar tree).mapM fun diagnostic =>
                (behindHeader width overflow source diagnostic).map
                  (headerAt (diagnostic.span.address source) diagnostic ++ ·)).map
                (fun entries => String.join entries ++
                  (summary? (check grammar tree)).elim "" (· ++ "\n")) ∧
            (bytes source.toList < UInt64.size →
              ∃ text, render width overflow source (check grammar tree) = .ok text)) ∧
          ((check grammar tree).map fun diagnostic => diagnostic.span.address source).Pairwise
            (· ≤ ·) := by
  refine ⟨?_, fun span => Span.offsetAt?_address, ?_⟩
  · intro first second start further
    refine ⟨Span.address_lt_address start further, fun same => ?_⟩
    have parts := toLex.injective same
    rw [Prod.mk.injEq] at parts
    have again := Span.offsetAt?_address start
    rw [parts.1, parts.2, Span.offsetAt?_address further] at again
    exact (Option.some.inj again).symm
  · intro settings tree grammar parsed
    have listed := (Tree.located_of_parse parsed).listed grammar
    refine ⟨fun width overflow => ?_, addresses_ascend listed⟩
    exact ⟨render_eq_headers width overflow source _,
      exists_render_check_eq_ok width overflow source listed⟩

theorem locations_in_reading_order_of_two_lines :
    let source := "ö --a\n日本 --b\n"
    let tree : Tree := ⟨source, ⟨⟨"ö", false⟩, ⟨0, 2⟩⟩,
      [⟨"日本", ⟨7, 6⟩, [], [⟨"b", ⟨14, 3⟩, .long, none⟩]⟩], [⟨"a", ⟨3, 3⟩, .long, none⟩]⟩
    let diagnostics : List Diagnostic :=
      [.missingOption "conf" ⟨0, 18⟩, .unknownOption "a" ⟨3, 3⟩, .unknownOption "b" ⟨14, 3⟩]
    let first : Span := ⟨3, 3⟩
    let second : Span := ⟨14, 3⟩
    Boundary source.toList first.position ∧ Boundary source.toList second.position ∧
      first.position < second.position ∧ first.address source < second.address source ∧
      second.address source = toLex (2, 4) ∧ Text.offsetAt? source.toList 2 4 = some 14 ∧
      ∃ grammar, Tree.parse {} source = .ok tree ∧ check grammar tree = diagnostics ∧
        (∃ text, render List.length .trap source diagnostics = .ok text) ∧
        (diagnostics.map fun diagnostic => diagnostic.span.address source).Pairwise (· ≤ ·) := by
  intro source tree diagnostics first second
  let level : Level :=
    ⟨.zeroOrMultiple, [⟨"日本", .one, .zero, [], []⟩], [⟨"conf", none, true, false, false⟩]⟩
  have faultless : level.fault? = none := by decide
  have parsed : Tree.parse {} source = .ok tree := by
    rw [Tree.parse_eq_ofLexed]
    decide +kernel
  have checked : check ⟨level, faultless⟩ tree = diagnostics := by
    rw [check_eq_insertionSort]
    decide +kernel
  have start : Boundary source.toList first.position := by
    rw [Text.boundary_iff_isSome_splitAt?]
    decide
  have further : Boundary source.toList second.position := by
    rw [Text.boundary_iff_isSome_splitAt?]
    decide
  have order : first.position < second.position := by decide
  have line : second.line source = 2 := by decide
  have column : second.column source = 4 := by decide
  obtain ⟨ordered, found, reported⟩ := locations_in_reading_order source
  obtain ⟨rendered, ascending⟩ := reported {} tree ⟨level, faultless⟩ parsed
  have written := (rendered List.length .trap).2 (by decide)
  rw [checked] at written ascending
  have again := found second further
  rw [line, column] at again
  exact ⟨start, further, order, (ordered first second start further).1 order,
    by rw [Span.address, line, column], again, _, parsed, checked, written,
    ascending⟩

end Report

end CommandLine
