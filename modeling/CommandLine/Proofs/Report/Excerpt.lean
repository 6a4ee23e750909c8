import CommandLine.Proofs.Text.Lines
import CommandLine.Report

/-!
# Excerpts and their sources

An excerpt starts at its place, or at the end of the source if the place lies behind it, and
covers what the place covers of the line.  The search for one is given up only for the sum of a
place and its length (`exists_ofSpan?_eq_ok_iff`).  If that sum is a word, there is an excerpt if
and only if the source can be cut at both ends (`isSome_of_ofSpan?`), and it shows the line at
which the place starts, with as many characters in front as the column says (`fits_of_ofSpan?`).
-/

set_option autoImplicit false

namespace CommandLine

open Text (bytes Boundary LineAround)

namespace Span

def shownStart (span : Span) (source : String) : Nat :=
  min span.position (bytes source.toList)

/-- Where the excerpt for a span ends to cover the text up to an offset: not before the start
and not behind the line on which it starts. -/
def shownUpTo (span : Span) (source : String) (stop : Nat) : Nat :=
  max (span.shownStart source) (min stop (Text.lineStop source.toList (span.shownStart source)))

def shownStop (span : Span) (source : String) : Nat :=
  span.shownUpTo source span.stop

variable {span : Span} {source : String} {front back : List Char}

theorem before_eq_of_shownStart (whole : source.toList = front ++ back)
    (position : bytes front = span.shownStart source) : span.before source = front := by
  have size := Text.bytes_append front back
  rw [← whole] at size
  rcases Nat.lt_or_ge (bytes source.toList) span.position with behind | inside
  · -- nothing of the source lies behind the start, and no cut at the place
    rw [shownStart, Nat.min_eq_right (Nat.le_of_lt behind)] at position
    obtain rfl : back = [] := (Text.bytes_eq_zero_iff back).1 (by omega)
    rw [List.append_nil] at whole
    rw [Span.before]
    split
    · rename_i before after cut
      obtain ⟨same, place⟩ := (Text.splitAt?_eq_some_iff ..).1 cut
      rw [same, Text.bytes_append] at behind
      omega
    · exact whole
  · exact before_eq back whole (by rw [position, shownStart, Nat.min_eq_left inside])

theorem shownStart_le_shownUpTo (span : Span) (source : String) (stop : Nat) :
    span.shownStart source ≤ span.shownUpTo source stop :=
  Nat.le_max_left ..

/-- An excerpt covers the text as far as the line goes. -/
theorem shownUpTo_eq {earlier lead tail later : List Char}
    (around : LineAround source.toList (span.shownStart source) earlier lead tail later)
    (stop : Nat) :
    span.shownUpTo source stop =
      span.shownStart source + min (stop - span.shownStart source) (bytes tail) := by
  rw [shownUpTo, around.lineStop_eq]
  omega

theorem Marks.fits (marks : span.Marks source) (words : bytes source.toList < UInt64.size) :
    span.position + span.length < UInt64.size :=
  Nat.lt_of_le_of_lt marks.stop_le words

end Span

namespace Excerpt

def line (excerpt : Excerpt) : List Char :=
  excerpt.lead ++ excerpt.covered ++ excerpt.rest

/-- A mark is at least one column wide, and a caret takes the place of its first column. -/
theorem render_eq (width : List Char → Nat) (excerpt : Excerpt) (label : String) :
    excerpt.render width label =
      toString excerpt.number ++ " | " ++ String.ofList excerpt.line ++ "\n" ++
        Text.spaces (toString excerpt.number).length ++ " | " ++
        Text.spaces (width excerpt.lead) ++ "^" ++
        String.ofList (List.replicate (max (width excerpt.covered) 1 - 1) '-') ++ " " ++
        label ++ "\n" := by
  have dashes : max (width excerpt.covered) 1 - 1 = width excerpt.covered - 1 := by omega
  rw [dashes, render, line]

/-- An excerpt shows the line on which a span starts, cut where the span starts and ends. -/
structure Fits (source : String) (span : Span) (excerpt : Excerpt) : Prop where
  number : excerpt.number = span.line source
  column : excerpt.lead.length + 1 = span.column source
  line : (source.toList.splitOn '\n')[excerpt.number - 1]? = some excerpt.line
  cut : ∃ earlier later, source.toList = earlier ++ excerpt.line ++ later ∧
    bytes (earlier ++ excerpt.lead) = span.shownStart source ∧
    bytes (earlier ++ excerpt.lead ++ excerpt.covered) = span.shownStop source

section

variable {overflow : Overflow} {source : String} {span : Span}

theorem ofSpan?_of_unbounded (inside : ¬Boundary source.toList (span.shownStart source)) :
    ofSpan? overflow source span = .ok none := by
  rw [ofSpan?, ← Span.shownStart, (Text.splitAt?_eq_none_iff ..).2 inside]

theorem ofSpan?_of_bounded {front back : List Char} (whole : source.toList = front ++ back)
    (position : bytes front = span.shownStart source) :
    ofSpan? overflow source span =
      (Word.sum overflow span.position span.length).map fun stop =>
        (Text.splitAt? (Text.beforeFirstBreak back)
          (span.shownUpTo source stop - span.shownStart source)).map fun (covered, rest) =>
            ⟨span.line source, Text.afterLastBreak front, covered, rest⟩ := by
  obtain ⟨earlier, later, around, -, -⟩ := Text.exists_lineAround whole position
  have split : Text.splitAt? source.toList (span.shownStart source) = some (front, back) :=
    (Text.splitAt?_eq_some_iff ..).2 ⟨whole, position⟩
  simp only [Span.shownUpTo_eq around, Nat.add_sub_cancel_left]
  rw [ofSpan?, ← Span.shownStart, split]

/-- An end of a span that is no word is met only behind a place at which the source is cut. -/
theorem exists_ofSpan?_eq_ok_iff (overflow : Overflow) (source : String) (span : Span) :
    (∃ found, ofSpan? overflow source span = .ok found) ↔
      (Boundary source.toList (span.shownStart source) →
        overflow = .wrap ∨ span.position + span.length < UInt64.size) := by
  by_cases start : Boundary source.toList (span.shownStart source)
  · rw [forall_prop_of_true start, ← Word.exists_sum_eq_ok_iff]
    obtain ⟨front, back, whole, position⟩ := start
    rw [ofSpan?_of_bounded whole position]
    cases Word.sum overflow span.position span.length <;> simp [Except.map]
  · rw [ofSpan?_of_unbounded start]
    simp [start]

section

variable (fits : span.position + span.length < UInt64.size)
include fits

theorem ofSpan?_of_fits {front back : List Char} (whole : source.toList = front ++ back)
    (position : bytes front = span.shownStart source) :
    ofSpan? overflow source span =
      .ok ((Text.splitAt? (Text.beforeFirstBreak back)
        (span.shownStop source - span.shownStart source)).map fun (covered, rest) =>
          ⟨span.line source, Text.afterLastBreak front, covered, rest⟩) := by
  rw [ofSpan?_of_bounded whole position, Word.sum_eq_ok fits]
  rfl

/-- There is an excerpt if the source can be cut at both of its ends. -/
theorem isSome_of_ofSpan? {found : Option Excerpt}
    (cut : ofSpan? overflow source span = .ok found) :
    found.isSome = true ↔
      Boundary source.toList (span.shownStart source) ∧
        Boundary source.toList (span.shownStop source) := by
  by_cases start : Boundary source.toList (span.shownStart source)
  · obtain ⟨front, back, whole, position⟩ := start
    obtain ⟨earlier, later, around, -, backEq⟩ := Text.exists_lineAround whole position
    have stop := Span.shownUpTo_eq around span.stop
    have inLine := Text.boundary_front_iff later
      (Nat.min_le_right (span.stop - span.shownStart source) (bytes (Text.beforeFirstBreak back)))
    rw [← backEq] at inLine
    rw [ofSpan?_of_fits fits whole position, Except.ok.injEq] at cut
    rw [← cut, Option.isSome_map, ← Text.boundary_iff_isSome_splitAt?,
      and_iff_right around.boundary, Span.shownStop, stop, Nat.add_sub_cancel_left, ← inLine,
      ← Text.boundary_back_iff front, ← whole, position]
  · rw [ofSpan?_of_unbounded start, Except.ok.injEq] at cut
    simp [← cut, start]

theorem fits_of_ofSpan? {excerpt : Excerpt}
    (found : ofSpan? overflow source span = .ok (some excerpt)) : excerpt.Fits source span := by
  obtain ⟨start, -⟩ := (isSome_of_ofSpan? fits found).1 rfl
  obtain ⟨front, back, whole, position⟩ := start
  obtain ⟨earlier, later, around, frontEq, backEq⟩ := Text.exists_lineAround whole position
  rw [ofSpan?_of_fits fits whole position, Except.ok.injEq, Option.map_eq_some_iff] at found
  obtain ⟨⟨covered, rest⟩, split, rfl⟩ := found
  obtain ⟨tail, size⟩ := (Text.splitAt?_eq_some_iff ..).1 split
  have before := Span.before_eq_of_shownStart whole position
  have shown : (⟨span.line source, Text.afterLastBreak front, covered, rest⟩ : Excerpt).line =
      Text.afterLastBreak front ++ Text.beforeFirstBreak back := by
    rw [line, tail, List.append_assoc]
  refine ⟨rfl, ?_, ?_, earlier, later, ?_, around.position, ?_⟩
  · rw [Span.column, before]
  · have breaks := around.breaks_front
    rw [← frontEq] at breaks
    rw [shown, Span.line, before, Nat.add_sub_cancel, breaks]
    exact around.getElem?_splitOn
  · rw [shown, around.whole]
    simp
  · have order := span.shownStart_le_shownUpTo source span.stop
    rw [Text.bytes_append, around.position, size, Span.shownStop]
    omega

end

end

end Excerpt

end CommandLine
