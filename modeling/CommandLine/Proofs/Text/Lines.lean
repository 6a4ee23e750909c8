import CommandLine.Proofs.Span
import CommandLine.Text.Pad
import CommandLine.Text.Quoted

/-!
# Texts line by line

A text is divided at its newlines.  It is `Lined` if this gives its lines and nothing behind
the last newline, which holds of lines that are closed one after the other if and only if
each of them is unbroken: `lined_ofLines_iff`.  In any text, the line around an offset is one
of the parts, and the newlines before the offset say which one: `LineAround.getElem?_splitOn`.
-/

set_option autoImplicit false

namespace CommandLine.Text

theorem splitOn_cons (char : Char) (rest : List Char) :
    (char :: rest).splitOn '\n' =
      if char = '\n' then [] :: rest.splitOn '\n'
      else (rest.splitOn '\n').modifyHead (List.cons char) := by
  simp [List.splitOn_cons_eq_if_modifyHead]

theorem length_splitOn (text : List Char) : (text.splitOn '\n').length = breaks text + 1 := by
  induction text with
  | nil => rfl
  | cons char rest ih =>
      rw [splitOn_cons]
      split
      · rename_i newline
        rw [List.length_cons, ih, breaks, breaks, newline, List.count_cons_self]
      · rename_i other
        rw [List.length_modifyHead, ih, breaks, breaks, List.count_cons_of_ne other]

theorem flatMap_splitOn (text : List Char) :
    ((text.splitOn '\n').flatMap fun line => line ++ ['\n']) = text ++ ['\n'] := by
  induction text with
  | nil => rfl
  | cons char rest ih =>
      rw [splitOn_cons]
      split
      · rename_i newline
        rw [List.flatMap_cons, ih, newline]
        rfl
      · obtain ⟨first, more, divided⟩ :=
          List.exists_cons_of_ne_nil (List.splitOn_ne_nil '\n' rest)
        rw [divided, List.flatMap_cons] at ih
        rw [divided, List.modifyHead_cons, List.flatMap_cons, List.cons_append, List.cons_append,
          ih, List.cons_append]

theorem newline_not_mem_of_mem_splitOn {text line : List Char}
    (member : line ∈ text.splitOn '\n') : '\n' ∉ line := by
  induction text generalizing line with
  | nil =>
      obtain rfl : line = [] := by simpa using member
      exact List.not_mem_nil
  | cons char rest ih =>
      rw [splitOn_cons] at member
      split at member
      · rcases List.mem_cons.1 member with rfl | below
        · exact List.not_mem_nil
        · exact ih below
      · rename_i other
        obtain ⟨first, more, divided⟩ :=
          List.exists_cons_of_ne_nil (List.splitOn_ne_nil '\n' rest)
        rw [divided] at ih
        rw [divided, List.modifyHead_cons] at member
        rcases List.mem_cons.1 member with rfl | below
        · simpa [eq_comm, other] using ih List.mem_cons_self
        · exact ih (List.mem_cons_of_mem _ below)

/-! ## Unbroken texts -/

def Unbroken (text : String) : Prop :=
  '\n' ∉ text.toList

instance (text : String) : Decidable (Unbroken text) :=
  inferInstanceAs (Decidable ('\n' ∉ text.toList))

theorem unbroken_append_iff (front back : String) :
    Unbroken (front ++ back) ↔ Unbroken front ∧ Unbroken back := by
  simp [Unbroken]

theorem isDigit_of_mem_toString {number : Nat} {char : Char}
    (member : char ∈ (toString number).toList) : char.isDigit = true := by
  rw [Nat.toString_eq_ofList_toDigits, String.toList_ofList] at member
  exact Nat.isDigit_of_mem_toDigits (by decide) (by decide) member

theorem unbroken_toString (number : Nat) : Unbroken (toString number) := by
  intro member
  cases isDigit_of_mem_toString member

theorem unbroken_spaces (count : Nat) : Unbroken (spaces count) := by
  simp [Unbroken, spaces]

theorem unbroken_padRight_iff (size : Nat) (text : String) :
    Unbroken (padRight size text) ↔ Unbroken text := by
  rw [padRight, unbroken_append_iff]
  exact and_iff_left (unbroken_spaces _)

theorem unbroken_quoted (text : String) : Unbroken (quoted text) :=
  newline_not_mem_quoted text

/-! ## Closed lines -/

/-- The text consists of these lines, each of them closed by a newline. -/
def Lined (lines : List String) (text : String) : Prop :=
  text.toList.splitOn '\n' = lines.map String.toList ++ [[]]

def ofLines (lines : List String) : String :=
  String.join (lines.map (· ++ "\n"))

theorem ofLines_cons (line : String) (rest : List String) :
    ofLines (line :: rest) = line ++ "\n" ++ ofLines rest := by
  rw [ofLines, List.map_cons, String.join_cons, ofLines]

theorem Lined.breaks_eq {lines : List String} {text : String} (lined : Lined lines text) :
    breaks text.toList = lines.length := by
  have count := length_splitOn text.toList
  rw [lined, List.length_append, List.length_map] at count
  exact (Nat.succ.inj count).symm

theorem lined_ofLines_iff (lines : List String) :
    Lined lines (ofLines lines) ↔ ∀ line ∈ lines, Unbroken line := by
  constructor
  · intro lined line member
    have part : line.toList ∈ (ofLines lines).toList.splitOn '\n' := by
      rw [lined]
      exact List.mem_append_left _ (List.mem_map_of_mem member)
    exact newline_not_mem_of_mem_splitOn part
  · intro whole
    induction lines with
    | nil => rfl
    | cons line rest ih =>
        have own := List.forall_mem_cons.1 whole
        have below : (ofLines rest).toList.splitOn '\n' = rest.map String.toList ++ [[]] :=
          ih own.2
        have first : (ofLines (line :: rest)).toList =
            line.toList ++ '\n' :: (ofLines rest).toList := by
          simp [ofLines_cons]
        rw [Lined, first, List.splitOn_append_cons_self_of_not_mem own.1, below]
        rfl

/-! ## The line around an offset -/

/-- A text is cut at an offset and at both ends of the line around that offset. -/
structure LineAround (text : List Char) (offset : Nat)
    (earlier lead tail later : List Char) : Prop where
  whole : text = earlier ++ lead ++ (tail ++ later)
  position : bytes (earlier ++ lead) = offset
  lead_unbroken : '\n' ∉ lead
  tail_unbroken : '\n' ∉ tail
  opened : ∀ char ∈ earlier.getLast?, char = '\n'
  closed : ∀ char ∈ later.head?, char = '\n'

/-- The end of the line around an offset: the offset of the next newline, or else the end of
the text. -/
def lineStop : List Char → Nat → Nat
  | [], _ => 0
  | char :: rest, offset =>
      if offset = 0 ∧ char = '\n' then 0
      else char.utf8Size + lineStop rest (offset - char.utf8Size)

theorem exists_later (text : List Char) :
    ∃ later, text = beforeFirstBreak text ++ later ∧ ∀ char ∈ later.head?, char = '\n' := by
  refine ⟨text.dropWhile (· != '\n'), List.takeWhile_append_dropWhile.symm, ?_⟩
  intro char first
  have stops := List.head?_dropWhile_not (· != '\n') text
  rw [first] at stops
  simpa using stops

theorem exists_earlier (text : List Char) :
    ∃ earlier, text = earlier ++ afterLastBreak text ∧
      ∀ char ∈ earlier.getLast?, char = '\n' := by
  obtain ⟨later, same, stop⟩ := exists_later text.reverse
  refine ⟨later.reverse, ?_, by rwa [List.getLast?_reverse]⟩
  have turned := congrArg List.reverse same
  rwa [List.reverse_reverse, List.reverse_append] at turned

theorem exists_lineAround {text front back : List Char} {offset : Nat}
    (whole : text = front ++ back) (position : bytes front = offset) :
    ∃ earlier later,
      LineAround text offset earlier (afterLastBreak front) (beforeFirstBreak back) later ∧
      front = earlier ++ afterLastBreak front ∧ back = beforeFirstBreak back ++ later := by
  obtain ⟨earlier, frontEq, opened⟩ := exists_earlier front
  obtain ⟨later, backEq, closed⟩ := exists_later back
  refine ⟨earlier, later, ⟨?_, ?_, ?_, ?_, opened, closed⟩, frontEq, backEq⟩
  · rw [← frontEq, ← backEq, whole]
  · rw [← frontEq, position]
  · exact newline_not_mem_afterLastBreak front
  · exact newline_not_mem_beforeFirstBreak back

theorem lineStop_zero {tail later : List Char} (unbroken : '\n' ∉ tail)
    (closed : ∀ char ∈ later.head?, char = '\n') : lineStop (tail ++ later) 0 = bytes tail := by
  induction tail with
  | nil =>
      cases later with
      | nil => rfl
      | cons char rest => simp [lineStop, closed char rfl]
  | cons char rest ih =>
      simp only [List.mem_cons, not_or] at unbroken
      simp [lineStop, Ne.symm unbroken.1, ih unbroken.2]

theorem lineStop_append (front back : List Char) :
    lineStop (front ++ back) (bytes front) = bytes front + lineStop back 0 := by
  induction front with
  | nil => simp
  | cons char rest ih =>
      have positive := char.utf8Size_pos
      have inside : ¬(bytes (char :: rest) = 0 ∧ char = '\n') := by
        rw [bytes_cons]
        omega
      rw [List.cons_append, lineStop, if_neg inside, bytes_cons, Nat.add_sub_cancel_left, ih,
        Nat.add_assoc]

/-- In front of the start of a line, a text consists of as many lines as it has newlines. -/
theorem exists_splitOn_append {earlier : List Char}
    (opened : ∀ char ∈ earlier.getLast?, char = '\n') (behind : List Char) :
    ∃ lines, (earlier ++ behind).splitOn '\n' = lines ++ behind.splitOn '\n' ∧
      lines.length = breaks earlier ∧ (lines.flatMap fun line => line ++ ['\n']) = earlier := by
  rcases List.eq_nil_or_concat earlier with rfl | ⟨front, char, rfl⟩
  · exact ⟨[], rfl, rfl, rfl⟩
  · obtain rfl := opened char (by simp)
    refine ⟨front.splitOn '\n', ?_, ?_, ?_⟩
    · rw [List.concat_eq_append, List.append_assoc, List.singleton_append,
        List.splitOn_append_cons_self]
    · rw [length_splitOn, List.concat_eq_append, breaks, breaks, List.count_append]
      rfl
    · rw [flatMap_splitOn, List.concat_eq_append]

namespace LineAround

variable {text earlier lead tail later : List Char} {offset : Nat}
  (around : LineAround text offset earlier lead tail later)
include around

theorem boundary : Boundary text offset :=
  ⟨earlier ++ lead, tail ++ later, around.whole, around.position⟩

theorem lineStop_eq : lineStop text offset = offset + bytes tail := by
  rw [around.whole, ← around.position, lineStop_append,
    lineStop_zero around.tail_unbroken around.closed]

theorem le_lineStop : offset ≤ lineStop text offset := by
  rw [around.lineStop_eq]
  exact Nat.le_add_right ..

theorem boundary_lineStop : Boundary text (lineStop text offset) := by
  rw [around.lineStop_eq]
  refine ⟨earlier ++ lead ++ tail, later, ?_, ?_⟩
  · rw [around.whole, List.append_assoc (earlier ++ lead)]
  · rw [bytes_append, around.position]

theorem breaks_front : breaks (earlier ++ lead) = breaks earlier := by
  have own : breaks lead = 0 := List.count_eq_zero.2 around.lead_unbroken
  rw [breaks, List.count_append, ← breaks, ← breaks, own, Nat.add_zero]

/-- The line around an offset is the part behind as many others as there are newlines before
the offset. -/
theorem getElem?_splitOn : (text.splitOn '\n')[breaks earlier]? = some (lead ++ tail) := by
  have unbroken : '\n' ∉ lead ++ tail := by
    rw [List.mem_append]
    exact not_or.2 ⟨around.lead_unbroken, around.tail_unbroken⟩
  have same : text = earlier ++ (lead ++ tail ++ later) := by
    rw [around.whole]
    simp
  have first : ((lead ++ tail ++ later).splitOn '\n')[0]? = some (lead ++ tail) := by
    cases later with
    | nil =>
        rw [List.append_nil, List.splitOn_eq_singleton unbroken]
        rfl
    | cons char rest =>
        obtain rfl := around.closed char rfl
        rw [List.splitOn_append_cons_self_of_not_mem unbroken]
        rfl
  obtain ⟨lines, divided, count, -⟩ :=
    exists_splitOn_append around.opened (lead ++ tail ++ later)
  rw [same, divided, ← count, List.getElem?_append_right (Nat.le_refl _), Nat.sub_self]
  exact first

end LineAround

end CommandLine.Text

namespace CommandLine

theorem Span.unbroken_text (span : Span) : Text.Unbroken span.text := by
  rw [Span.text, Text.unbroken_append_iff, Text.unbroken_append_iff]
  exact ⟨⟨Text.unbroken_toString _, by decide⟩, Text.unbroken_toString _⟩

end CommandLine
