/-!
# Byte offsets into a text

Every position of the library is a byte offset into the UTF-8 form of a text,
while texts are scanned as lists of characters.  This module counts bytes and
cuts a text at an offset.  A cut inside a character, or past the end, does not
exist; `splitAt?_eq_some_iff` says that there is no other reason to refuse one.
-/

set_option autoImplicit false

namespace CommandLine.Text

/-- The number of bytes that a text takes in UTF-8. -/
def bytes : List Char → Nat
  | [] => 0
  | char :: rest => char.utf8Size + bytes rest

@[simp]
theorem bytes_nil : bytes [] = 0 := rfl

@[simp]
theorem bytes_cons (char : Char) (rest : List Char) :
    bytes (char :: rest) = char.utf8Size + bytes rest := rfl

@[simp]
theorem bytes_append (front back : List Char) :
    bytes (front ++ back) = bytes front + bytes back := by
  induction front with
  | nil => simp
  | cons char rest ih => simp [ih, Nat.add_assoc]

theorem bytes_eq_zero_iff (text : List Char) : bytes text = 0 ↔ text = [] := by
  cases text with
  | nil => simp
  | cons char rest =>
      have positive := char.utf8Size_pos
      simp
      omega

theorem length_le_bytes (text : List Char) : text.length ≤ bytes text := by
  induction text with
  | nil => simp
  | cons char rest ih =>
      have positive := char.utf8Size_pos
      simp
      omega

/-- The characters before and from a byte offset, if the offset lies between
two characters of the text or at one of its ends. -/
def splitAt? : List Char → Nat → Option (List Char × List Char)
  | text, 0 => some ([], text)
  | [], _ + 1 => none
  | char :: rest, offset + 1 =>
      if char.utf8Size ≤ offset + 1 then
        (splitAt? rest (offset + 1 - char.utf8Size)).map
          fun (front, back) => (char :: front, back)
      else
        none

@[simp]
theorem splitAt?_zero (text : List Char) : splitAt? text 0 = some ([], text) := by
  cases text <;> rfl

theorem splitAt?_bytes_append (front back : List Char) :
    splitAt? (front ++ back) (bytes front) = some (front, back) := by
  induction front with
  | nil => simp
  | cons char rest ih =>
      have positive := char.utf8Size_pos
      obtain ⟨offset, size⟩ : ∃ offset, char.utf8Size + bytes rest = offset + 1 :=
        ⟨char.utf8Size + bytes rest - 1, by omega⟩
      have inside : char.utf8Size ≤ offset + 1 := by omega
      have remaining : offset + 1 - char.utf8Size = bytes rest := by omega
      simp [splitAt?, size, inside, remaining, ih]

theorem splitAt?_eq_some_iff (text front back : List Char) (offset : Nat) :
    splitAt? text offset = some (front, back) ↔
      text = front ++ back ∧ bytes front = offset := by
  constructor
  · intro found
    fun_induction splitAt? text offset generalizing front back with
    | case1 text =>
        obtain ⟨rfl, rfl⟩ : front = [] ∧ back = text := by simpa [eq_comm] using found
        simp
    | case2 offset => simp at found
    | case3 char rest offset inside ih =>
        obtain ⟨⟨front', back'⟩, foundRest, same⟩ := Option.map_eq_some_iff.1 found
        obtain ⟨rfl, rfl⟩ : char :: front' = front ∧ back' = back := by simpa using same
        obtain ⟨rfl, size⟩ := ih front' back' foundRest
        simp
        omega
    | case4 char rest offset outside => simp at found
  · rintro ⟨rfl, rfl⟩
    exact splitAt?_bytes_append front back

def slice? (text : List Char) (offset length : Nat) : Option (List Char) :=
  (splitAt? text offset).bind fun (_, back) =>
    (splitAt? back length).map fun (inside, _) => inside

theorem slice?_eq_some_iff (text inside : List Char) (offset length : Nat) :
    slice? text offset length = some inside ↔
      ∃ front back, text = front ++ inside ++ back ∧
        bytes front = offset ∧ bytes inside = length := by
  simp only [slice?, Option.bind_eq_some_iff, Option.map_eq_some_iff, Prod.exists,
    splitAt?_eq_some_iff]
  constructor
  · rintro ⟨front, tail, ⟨rfl, size⟩, inside', back, ⟨rfl, length⟩, rfl⟩
    exact ⟨front, back, by simp, size, length⟩
  · rintro ⟨front, back, rfl, size, length⟩
    exact ⟨front, inside ++ back, ⟨by simp, size⟩, inside, back, ⟨rfl, length⟩, rfl⟩

end CommandLine.Text
