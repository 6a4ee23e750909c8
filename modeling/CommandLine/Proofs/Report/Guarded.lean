import CommandLine.Proofs.Report.Excerpt
import CommandLine.Proofs.Text.Guarded

/-!
# Snippets in machine words

A machine computes a snippet with byte offsets: it looks for newlines, and cuts the source
between the offsets that it finds and those of the span.  It finds the same snippet, and ends in
a `Trap` for nothing but the end of the span: `guardedSnippet_eq_snippet?`.
-/

set_option autoImplicit false

namespace CommandLine

open Text (bytes Boundary LineAround)

namespace Text

def firstBreak? : List Char → Option Nat
  | [] => none
  | char :: rest =>
      if char = '\n' then some 0 else (firstBreak? rest).map (char.utf8Size + ·)

def lastBreak? : List Char → Option Nat
  | [] => none
  | char :: rest =>
      match lastBreak? rest with
      | some offset => some (char.utf8Size + offset)
      | none => if char = '\n' then some 0 else none

def lastLineStart (text : List Char) : Except Trap Nat :=
  match lastBreak? text with
  | none => .ok 0
  | some offset => Word.add offset 1

/-- Where the line ends that goes on behind an offset of a text, with what stands behind the
offset. -/
def lineEnd (text : List Char) (offset : Nat) (behind : List Char) : Except Trap Nat :=
  match firstBreak? behind with
  | none => .ok (bytes text)
  | some further => Word.add offset further

end Text

def Span.guardedLocation (span : Span) (source : String) : Except Trap (Nat × Nat) := do
  let before := span.before source
  let line ← Word.add (Text.breaks before) 1
  let start ← Text.lastLineStart before
  match Text.between? before start (bytes before) with
  | none => .error .cut
  | some lead =>
      let column ← Word.add lead.length 1
      return (line, column)

namespace Report

def guardedSnippet (width : List Char → Nat) (overflow : Overflow) (source : String) (span : Span)
    (label : String) : Except Trap (Option String) :=
  let text := source.toList
  let start := min span.position (bytes text)
  match Text.splitAt? text start with
  | none => .ok none
  | some (before, behind) => do
      let lineStart ← Text.lastLineStart before
      let lineStop ← Text.lineEnd text start behind
      match Text.between? text lineStart lineStop with
      | none => return none
      | some line =>
          let (number, _) ← span.guardedLocation source
          match Text.between? text lineStart start with
          | none => return none
          | some lead =>
              let stop ← Word.sum overflow span.position span.length
              let coveredStop ← Word.clamp stop start lineStop
              match Text.between? text start coveredStop with
              | none => return none
              | some covered =>
                  let gutter := (toString number).length
                  let dashes ← Word.sub (max (width covered) 1) 1
                  return some
                    (Text.padLeft gutter (toString number) ++ " | " ++ String.ofList line ++ "\n" ++
                      Text.padLeft gutter "" ++ " | " ++ Text.spaces (width lead) ++ "^" ++
                      String.ofList (List.replicate dashes '-') ++ " " ++ label ++ "\n")

end Report

/-! ## Newlines and cuts -/

namespace Text

theorem firstBreak?_eq_none {text : List Char} (unbroken : '\n' ∉ text) :
    firstBreak? text = none := by
  induction text with
  | nil => rfl
  | cons char rest ih =>
      simp only [List.mem_cons, not_or] at unbroken
      simp [firstBreak?, Ne.symm unbroken.1, ih unbroken.2]

theorem firstBreak?_append {front : List Char} (unbroken : '\n' ∉ front) (back : List Char) :
    firstBreak? (front ++ '\n' :: back) = some (bytes front) := by
  induction front with
  | nil => rfl
  | cons char rest ih =>
      simp only [List.mem_cons, not_or] at unbroken
      simp [firstBreak?, Ne.symm unbroken.1, ih unbroken.2]

theorem lastBreak?_eq_none {text : List Char} (unbroken : '\n' ∉ text) :
    lastBreak? text = none := by
  induction text with
  | nil => rfl
  | cons char rest ih =>
      simp only [List.mem_cons, not_or] at unbroken
      simp [lastBreak?, Ne.symm unbroken.1, ih unbroken.2]

theorem lastBreak?_append (front : List Char) {back : List Char} (unbroken : '\n' ∉ back) :
    lastBreak? (front ++ '\n' :: back) = some (bytes front) := by
  induction front with
  | nil => simp [lastBreak?, lastBreak?_eq_none unbroken]
  | cons char rest ih => simp [lastBreak?, ih]

/-- The last line of a text starts behind its last newline. -/
theorem lastLineStart_append {front line : List Char} (unbroken : '\n' ∉ line)
    (opened : ∀ char ∈ front.getLast?, char = '\n') (fits : bytes front < UInt64.size) :
    lastLineStart (front ++ line) = .ok (bytes front) := by
  rcases List.eq_nil_or_concat front with rfl | ⟨lead, char, rfl⟩
  · rw [List.nil_append, lastLineStart, lastBreak?_eq_none unbroken]
    rfl
  · obtain rfl := opened char (by simp)
    have size : bytes (lead.concat '\n') = bytes lead + 1 := by
      rw [List.concat_eq_append, bytes_append]
      rfl
    rw [List.concat_eq_append, List.append_assoc, List.singleton_append, lastLineStart,
      lastBreak?_append lead unbroken, ← List.concat_eq_append, size]
    exact if_pos (by rwa [← size])

namespace LineAround

variable {text earlier lead tail later : List Char} {offset : Nat}
  (around : LineAround text offset earlier lead tail later)
include around

theorem bytes_text : bytes text = bytes earlier + bytes lead + (bytes tail + bytes later) := by
  rw [around.whole, bytes_append, bytes_append, bytes_append]

theorem lastLineStart_eq (fits : bytes text < UInt64.size) :
    lastLineStart (earlier ++ lead) = .ok (bytes earlier) := by
  have size := around.bytes_text
  exact lastLineStart_append around.lead_unbroken around.opened (by omega)

theorem lineEnd_eq (fits : bytes text < UInt64.size) :
    lineEnd text offset (tail ++ later) = .ok (lineStop text offset) := by
  have size := around.bytes_text
  have place := around.position
  rw [bytes_append] at place
  rw [around.lineStop_eq]
  cases later with
  | nil =>
      rw [bytes_nil, Nat.add_zero, place] at size
      rw [List.append_nil, lineEnd, firstBreak?_eq_none around.tail_unbroken, size]
  | cons char rest =>
      obtain rfl := around.closed char rfl
      rw [lineEnd, firstBreak?_append around.tail_unbroken]
      exact if_pos (by omega)

theorem between?_line : between? text (bytes earlier) (lineStop text offset) =
    some (lead ++ tail) := by
  have found := between?_append earlier (lead ++ tail) later
  rwa [← List.append_assoc, List.append_assoc, ← around.whole, bytes_append, around.position,
    ← around.lineStop_eq] at found

theorem between?_lead : between? text (bytes earlier) offset = some lead := by
  have found := between?_append earlier lead (tail ++ later)
  rwa [← around.whole, around.position] at found

/-- Within a line, a text is cut behind an offset where the rest of the line is. -/
theorem between?_tail {stop : Nat} (start : offset ≤ stop) (inside : stop ≤ lineStop text offset) :
    between? text offset stop = (splitAt? tail (stop - offset)).map Prod.fst := by
  have cut : splitAt? text offset = some (earlier ++ lead, tail ++ later) :=
    (splitAt?_eq_some_iff ..).2 ⟨around.whole, around.position⟩
  rw [around.lineStop_eq] at inside
  rw [between?, if_pos start, slice?, cut]
  exact map_fst_splitAt?_append later (Nat.sub_le_iff_le_add'.2 inside)

end LineAround

end Text

/-! ## Snippets -/

theorem Span.bytes_before_le (span : Span) (source : String) :
    bytes (span.before source) ≤ bytes source.toList := by
  unfold Span.before
  split
  · rename_i front back cut
    rw [((Text.splitAt?_eq_some_iff ..).1 cut).1, Text.bytes_append]
    exact Nat.le_add_right ..
  · exact Nat.le_refl _

theorem Span.guardedLocation_eq_ok (span : Span) {source : String}
    (fits : bytes source.toList + 1 < UInt64.size) :
    span.guardedLocation source = .ok (span.line source, span.column source) := by
  have size := span.bytes_before_le source
  obtain ⟨earlier, later, around, same, -⟩ :=
    Text.exists_lineAround (List.append_nil (span.before source)).symm rfl
  have line : Word.add (Text.breaks (span.before source)) 1 = .ok (span.line source) := by
    have count : Text.breaks (span.before source) ≤ bytes (span.before source) :=
      Nat.le_trans List.count_le_length (Text.length_le_bytes _)
    exact if_pos (by omega)
  have start : Text.lastLineStart (span.before source) = .ok (bytes earlier) := by
    have found := around.lastLineStart_eq (by omega)
    rwa [← same] at found
  have column : Word.add (Text.afterLastBreak (span.before source)).length 1 =
      .ok (span.column source) := by
    have count := Text.length_le_bytes (Text.afterLastBreak (span.before source))
    have whole := around.bytes_text
    exact if_pos (by omega)
  rw [guardedLocation, line, start]
  simp only [bind, Except.bind, around.between?_lead, column]
  rfl

namespace Report

theorem padLeft_self (text : String) : Text.padLeft text.length text = text := by
  simp [Text.padLeft, Text.spaces]

theorem padLeft_empty (size : Nat) : Text.padLeft size "" = Text.spaces size := by
  simp [Text.padLeft]

section

variable (width : List Char → Nat) (overflow : Overflow) {source : String} {span : Span}
  (label : String)

theorem guardedSnippet_of_unbounded (inside : ¬Boundary source.toList (span.shownStart source)) :
    guardedSnippet width overflow source span label = .ok none := by
  rw [guardedSnippet, ← Span.shownStart, (Text.splitAt?_eq_none_iff ..).2 inside]

theorem guardedSnippet_of_bounded (small : 2 * bytes source.toList < UInt64.size)
    {front back : List Char} (whole : source.toList = front ++ back)
    (position : bytes front = span.shownStart source) :
    guardedSnippet width overflow source span label =
      (Word.sum overflow span.position span.length).map fun stop =>
        (Text.splitAt? (Text.beforeFirstBreak back)
          (span.shownUpTo source stop - span.shownStart source)).map fun (covered, rest) =>
            (⟨span.line source, Text.afterLastBreak front, covered, rest⟩ : Excerpt).render
              width label := by
  have words : 2 < UInt64.size := by decide
  have split : Text.splitAt? source.toList (span.shownStart source) = some (front, back) :=
    (Text.splitAt?_eq_some_iff ..).2 ⟨whole, position⟩
  obtain ⟨earlier, later, around, frontEq, backEq⟩ := Text.exists_lineAround whole position
  have lineStart := around.lastLineStart_eq (by omega)
  have lineStop := around.lineEnd_eq (by omega)
  rw [← frontEq] at lineStart
  rw [← backEq] at lineStop
  have location : span.guardedLocation source = .ok (span.line source, span.column source) :=
    span.guardedLocation_eq_ok (by omega)
  rw [guardedSnippet, ← Span.shownStart, split]
  simp only [lineStart, lineStop, around.between?_line, location, around.between?_lead,
    bind, Except.bind, pure, Except.pure]
  cases Word.sum overflow span.position span.length with
  | error trap => rfl
  | ok stop =>
      have coveredStop : Word.clamp stop (span.shownStart source)
          (Text.lineStop source.toList (span.shownStart source)) =
            .ok (span.shownUpTo source stop) :=
        if_pos around.le_lineStop
      have covered := around.between?_tail (span.shownStart_le_shownUpTo source stop)
        (Nat.max_le.2 ⟨around.le_lineStop, Nat.min_le_right ..⟩)
      simp only [coveredStop, covered, Except.map]
      cases inside : Text.splitAt? (Text.beforeFirstBreak back)
          (span.shownUpTo source stop - span.shownStart source) with
      | none => rfl
      | some parts =>
          obtain ⟨covered, rest⟩ := parts
          obtain ⟨tail, -⟩ := (Text.splitAt?_eq_some_iff ..).1 inside
          have dashes : Word.sub (max (width covered) 1) 1 =
              .ok (max (width covered) 1 - 1) := if_pos (Nat.le_max_right ..)
          simp only [dashes, Option.map_some, Excerpt.render_eq, Excerpt.line, padLeft_self,
            padLeft_empty, tail, List.append_assoc]

/-- No memory holds a source of half as many bytes as there are words. -/
theorem guardedSnippet_eq_snippet? (small : 2 * bytes source.toList < UInt64.size) :
    guardedSnippet width overflow source span label =
      snippet? width overflow source span label := by
  rw [snippet?]
  by_cases inside : Boundary source.toList (span.shownStart source)
  · obtain ⟨front, back, whole, position⟩ := inside
    rw [guardedSnippet_of_bounded width overflow label small whole position,
      Excerpt.ofSpan?_of_bounded whole position]
    cases Word.sum overflow span.position span.length with
    | error trap => rfl
    | ok stop => simp only [Except.map, Option.map_map, Function.comp_def]
  · rw [guardedSnippet_of_unbounded width overflow label inside,
      Excerpt.ofSpan?_of_unbounded inside]
    rfl

end

end Report

end CommandLine
