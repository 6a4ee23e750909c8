import CommandLine.Proofs.Span
import CommandLine.Word

/-!
# Texts in machine words

A machine holds places of a text as byte offsets: it looks for characters, adds, subtracts and
clamps offsets, and cuts the text at them.  Its sums must be words, its differences not
negative, the limits of a clamp in order, and its cuts at boundaries of the text, or else the
computation ends in a `Trap`.

`RestAt` says what stands behind an offset.  The cuts from there on are then known, and so is
where the first character of some kind stands.
-/

set_option autoImplicit false

namespace CommandLine

namespace Word

def sub (first second : Nat) : Except Trap Nat :=
  if second ≤ first then .ok (first - second) else .error .underflow

def clamp (value low high : Nat) : Except Trap Nat :=
  if low ≤ high then .ok (max low (min value high)) else .error .limits

end Word

namespace Text

def between? (text : List Char) (start stop : Nat) : Option (List Char) :=
  if start ≤ stop then slice? text start (stop - start) else none

theorem between?_append (front inside back : List Char) :
    between? (front ++ inside ++ back) (bytes front) (bytes (front ++ inside)) = some inside := by
  have order : bytes front ≤ bytes (front ++ inside) := by
    rw [bytes_append]
    exact Nat.le_add_right ..
  rw [between?, if_pos order, slice?_eq_some_iff]
  exact ⟨front, back, rfl, rfl, by rw [bytes_append, Nat.add_sub_cancel_left]⟩

def cutBetween (text : List Char) (start stop : Nat) : Except Trap (List Char) :=
  match between? text start stop with
  | none => .error .cut
  | some inside => .ok inside

def cutFrom (text : List Char) (start : Nat) : Except Trap (List Char) :=
  match splitAt? text start with
  | none => .error .cut
  | some (_, back) => .ok back

def find? (test : Char → Bool) : List Char → Option Nat
  | [] => none
  | char :: rest => if test char then some 0 else (find? test rest).map (char.utf8Size + ·)

/-- The characters in front of the first one that passes a test are all that fail it at first. -/
theorem getD_find? (test : Char → Bool) (text : List Char) :
    (find? test text).getD (bytes text) = bytes (text.takeWhile fun char => !test char) := by
  induction text with
  | nil => rfl
  | cons char rest ih =>
      cases passes : test char with
      | true => simp [find?, passes]
      | false =>
          cases found : find? test rest with
          | none => simpa [find?, passes, found] using ih
          | some offset => simpa [find?, passes, found] using ih

def RestAt (text : List Char) (offset : Nat) (rest : List Char) : Prop :=
  ∃ front, text = front ++ rest ∧ bytes front = offset

namespace RestAt

variable {text inside rest : List Char} {offset : Nat}

theorem start (text : List Char) : RestAt text 0 text :=
  ⟨[], rfl, rfl⟩

theorem boundary (restAt : RestAt text offset rest) : Boundary text offset := by
  obtain ⟨front, same, size⟩ := restAt
  exact ⟨front, rest, same, size⟩

theorem offset_add (restAt : RestAt text offset rest) : offset + bytes rest = bytes text := by
  obtain ⟨front, rfl, rfl⟩ := restAt
  rw [bytes_append]

theorem behind (restAt : RestAt text offset (inside ++ rest)) :
    RestAt text (offset + bytes inside) rest := by
  obtain ⟨front, rfl, rfl⟩ := restAt
  exact ⟨front ++ inside, by simp, bytes_append ..⟩

theorem behind_cons {char : Char} (restAt : RestAt text offset (char :: rest)) :
    RestAt text (offset + char.utf8Size) rest := by
  rw [← List.singleton_append] at restAt
  exact restAt.behind

theorem cutFrom_eq (restAt : RestAt text offset rest) : cutFrom text offset = .ok rest := by
  obtain ⟨front, rfl, rfl⟩ := restAt
  rw [cutFrom, splitAt?_bytes_append]

theorem cutBetween_eq (restAt : RestAt text offset (inside ++ rest)) :
    cutBetween text offset (offset + bytes inside) = .ok inside := by
  obtain ⟨front, rfl, rfl⟩ := restAt
  rw [cutBetween, ← bytes_append, ← List.append_assoc, between?_append]

/-- A search from an offset on finds the end of the characters that fail the test, which is the
end of the text if none passes it. -/
theorem find?_eq (restAt : RestAt text offset rest) (test : Char → Bool) :
    ((find? test rest).map (offset + ·)).getD (bytes text) =
      offset + bytes (rest.takeWhile fun char => !test char) := by
  rw [← getD_find?, ← restAt.offset_add]
  cases find? test rest <;> rfl

end RestAt

end Text

end CommandLine
