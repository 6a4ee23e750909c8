import CommandLine.Span

/-!
# Places in a source

An offset is a boundary of a text if the text can be cut there.  A span marks a
part of a source if it is not empty and both its ends are boundaries; then it has
a slice.  Covering two spans keeps this, and is the least way to contain both:
`contains_cover_iff`.
-/

set_option autoImplicit false

namespace CommandLine

namespace Text

/-- The offset lies between two characters of a text or at one of its ends. -/
def Boundary (text : List Char) (offset : Nat) : Prop :=
  ∃ front back, text = front ++ back ∧ bytes front = offset

theorem boundary_zero (text : List Char) : Boundary text 0 :=
  ⟨[], text, rfl, rfl⟩

theorem boundary_bytes (text : List Char) : Boundary text (bytes text) :=
  ⟨text, [], by simp, rfl⟩

theorem boundary_iff_isSome_splitAt? (text : List Char) (offset : Nat) :
    Boundary text offset ↔ (splitAt? text offset).isSome = true := by
  simp only [Boundary, Option.isSome_iff_exists, Prod.exists, splitAt?_eq_some_iff]

theorem splitAt?_eq_none_iff (text : List Char) (offset : Nat) :
    splitAt? text offset = none ↔ ¬Boundary text offset := by
  rw [boundary_iff_isSome_splitAt?, Option.not_isSome_iff_eq_none]

/-- Whether and where a text can be cut within its front does not depend on what comes behind. -/
theorem map_fst_splitAt?_append {front : List Char} {offset : Nat} (back : List Char)
    (inside : offset ≤ bytes front) :
    (splitAt? (front ++ back) offset).map Prod.fst = (splitAt? front offset).map Prod.fst := by
  ext before
  simp only [Option.map_eq_some_iff, Prod.exists, splitAt?_eq_some_iff]
  constructor
  · rintro ⟨before, behind, ⟨same, size⟩, rfl⟩
    rcases List.append_eq_append_iff.1 same with ⟨more, rfl, rfl⟩ | ⟨more, rfl, rfl⟩
    · -- the cut is not behind the front, so it is where the front ends
      have empty : more = [] := by
        rw [bytes_append] at size
        rw [← bytes_eq_zero_iff]
        omega
      subst empty
      exact ⟨front, [], ⟨by simp, by simpa using size⟩, by simp⟩
    · exact ⟨before, more, ⟨rfl, size⟩, rfl⟩
  · rintro ⟨before, behind, ⟨rfl, size⟩, rfl⟩
    exact ⟨before, behind ++ back, ⟨by simp, size⟩, rfl⟩

theorem boundary_front_iff {front : List Char} {offset : Nat} (back : List Char)
    (inside : offset ≤ bytes front) :
    Boundary (front ++ back) offset ↔ Boundary front offset := by
  have same := congrArg Option.isSome (map_fst_splitAt?_append back inside)
  rw [Option.isSome_map, Option.isSome_map] at same
  rw [boundary_iff_isSome_splitAt?, boundary_iff_isSome_splitAt?, same]

theorem boundary_back_iff (front back : List Char) (offset : Nat) :
    Boundary (front ++ back) (bytes front + offset) ↔ Boundary back offset := by
  constructor
  · rintro ⟨before, behind, same, size⟩
    rcases List.append_eq_append_iff.1 same with ⟨more, rfl, rfl⟩ | ⟨more, rfl, rfl⟩
    · rw [bytes_append] at size
      exact ⟨more, behind, rfl, Nat.add_left_cancel size⟩
    · -- the cut is not before the back, so it is where the back starts
      rw [bytes_append] at size
      obtain rfl : offset = 0 := by omega
      exact boundary_zero _
  · rintro ⟨before, behind, rfl, size⟩
    exact ⟨front ++ before, behind, by simp, by rw [bytes_append, size]⟩

theorem exists_slice?_iff (text : List Char) (offset length : Nat) :
    (∃ inside, slice? text offset length = some inside) ↔
      Boundary text offset ∧ Boundary text (offset + length) := by
  simp only [slice?_eq_some_iff]
  constructor
  · rintro ⟨inside, front, back, rfl, rfl, rfl⟩
    refine ⟨⟨front, inside ++ back, by simp, rfl⟩, ⟨front ++ inside, back, rfl, by simp⟩⟩
  · rintro ⟨⟨front, back, rfl, rfl⟩, ⟨longer, tail, same, total⟩⟩
    rcases List.append_eq_append_iff.1 same with ⟨inside, rfl, rfl⟩ | ⟨inside, rfl, rfl⟩
    · refine ⟨inside, front, tail, by simp, rfl, ?_⟩
      rw [bytes_append] at total
      omega
    · -- the later cut is not before the earlier one
      have empty : inside = [] := by
        rw [bytes_append] at total
        rw [← bytes_eq_zero_iff]
        omega
      subst empty
      refine ⟨[], longer, back, by simp, by simp, ?_⟩
      simp only [bytes_append, bytes_nil] at total ⊢
      omega

end Text

namespace Span

theorem exists_slice?_iff (span : Span) (source : String) :
    (∃ text, span.slice? source = some text) ↔
      Text.Boundary source.toList span.position ∧ Text.Boundary source.toList span.stop := by
  rw [Span.stop, ← Text.exists_slice?_iff, Span.slice?]
  cases Text.slice? source.toList span.position span.length <;> simp

theorem slice?_eq_some_iff (span : Span) (source text : String) :
    span.slice? source = some text ↔
      ∃ front back, source.toList = front ++ text.toList ++ back ∧
        Text.bytes front = span.position ∧ Text.bytes text.toList = span.length := by
  rw [Span.slice?, Option.map_eq_some_iff]
  constructor
  · rintro ⟨inside, found, rfl⟩
    rw [String.toList_ofList]
    exact (Text.slice?_eq_some_iff ..).1 found
  · intro found
    exact ⟨text.toList, (Text.slice?_eq_some_iff ..).2 found, String.ofList_toList⟩

theorem slice?_of_append {source : String} {front inside : List Char} (back : List Char)
    (whole : source.toList = front ++ inside ++ back) :
    (⟨Text.bytes front, Text.bytes inside⟩ : Span).slice? source =
      some (String.ofList inside) := by
  rw [slice?_eq_some_iff, String.toList_ofList]
  exact ⟨front, back, whole, rfl, rfl⟩

theorem before_eq {span : Span} {source : String} {front : List Char} (back : List Char)
    (whole : source.toList = front ++ back) (offset : Text.bytes front = span.position) :
    span.before source = front := by
  rw [Span.before, ← offset, whole, Text.splitAt?_bytes_append]

theorem position_le_stop (span : Span) : span.position ≤ span.stop :=
  Nat.le_add_right ..

theorem length_eq (span : Span) : span.length = span.stop - span.position := by
  unfold Span.stop
  omega

theorem ofRange_add (start length : Nat) : ofRange start (start + length) = ⟨start, length⟩ := by
  rw [ofRange, Nat.add_sub_cancel_left]

theorem contains_self (span : Span) : span.contains span = true :=
  (contains_iff span span).2 ⟨Nat.le_refl _, Nat.le_refl _⟩

theorem contains_cover_iff (outer first second : Span) :
    outer.contains (first.cover second) = true ↔
      outer.contains first = true ∧ outer.contains second = true := by
  simp only [contains_iff, position_cover, stop_cover, Nat.le_min, Nat.max_le]
  exact and_and_and_comm

theorem cover_eq_of_le (front back : Span) (order : front.stop ≤ back.position) :
    front.cover back = ⟨front.position, back.stop - front.position⟩ := by
  have frontForward := front.position_le_stop
  have backForward := back.position_le_stop
  have start : min front.position back.position = front.position := by omega
  have stop : max front.stop back.stop = back.stop := by omega
  rw [cover, start, stop, ofRange]

/-- A part of a source, without a cut through a character. -/
structure Marks (span : Span) (source : String) : Prop where
  nonempty : 0 < span.length
  start : Text.Boundary source.toList span.position
  stop : Text.Boundary source.toList span.stop

theorem marks_of_slice? {span : Span} {source : String} {inside : List Char}
    (sliced : span.slice? source = some (String.ofList inside)) (nonempty : inside ≠ []) :
    span.Marks source := by
  obtain ⟨start, stop⟩ := (exists_slice?_iff span source).1 ⟨_, sliced⟩
  obtain ⟨front, back, -, -, size⟩ := (slice?_eq_some_iff ..).1 sliced
  rw [String.toList_ofList] at size
  refine ⟨Nat.pos_of_ne_zero ?_, start, stop⟩
  intro zero
  exact nonempty ((Text.bytes_eq_zero_iff inside).1 (size.trans zero))

theorem Marks.position_lt_stop {span : Span} {source : String} (marks : span.Marks source) :
    span.position < span.stop :=
  Nat.lt_add_of_pos_right marks.nonempty

theorem Marks.stop_le {span : Span} {source : String} (marks : span.Marks source) :
    span.stop ≤ Text.bytes source.toList := by
  obtain ⟨front, back, whole, offset⟩ := marks.stop
  rw [whole, Text.bytes_append, ← offset]
  exact Nat.le_add_right ..

theorem Marks.exists_slice? {span : Span} {source : String} (marks : span.Marks source) :
    ∃ text, span.slice? source = some text :=
  (exists_slice?_iff span source).2 ⟨marks.start, marks.stop⟩

theorem Marks.cover {first second : Span} {source : String} (marks : first.Marks source)
    (too : second.Marks source) : (first.cover second).Marks source := by
  refine ⟨?_, ?_, ?_⟩
  · have firstForward := marks.position_lt_stop
    rw [length_eq, position_cover, stop_cover]
    omega
  · rw [position_cover]
    rcases Nat.le_total first.position second.position with before | behind
    · rw [Nat.min_eq_left before]
      exact marks.start
    · rw [Nat.min_eq_right behind]
      exact too.start
  · rw [stop_cover]
    rcases Nat.le_total first.stop second.stop with before | behind
    · rw [Nat.max_eq_right before]
      exact too.stop
    · rw [Nat.max_eq_left behind]
      exact marks.stop

end Span

end CommandLine
