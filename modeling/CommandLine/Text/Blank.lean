/-!
# Blank characters

Blanks separate words.  They are the characters of the Unicode property
`White_Space`, which reaches further than the blanks of ASCII and leaves out
the information separators and the zero-width space.
-/

set_option autoImplicit false

namespace CommandLine.Text

/-- The characters with the Unicode property `White_Space`. -/
def isBlank (char : Char) : Bool :=
  let code := char.toNat
  (0x9 ≤ code && code ≤ 0xD) || code == 0x20 || code == 0x85 || code == 0xA0 ||
    code == 0x1680 || (0x2000 ≤ code && code ≤ 0x200A) || code == 0x2028 ||
    code == 0x2029 || code == 0x202F || code == 0x205F || code == 0x3000

/-- A text that a reader cannot see: it is empty or holds blanks only. -/
def allBlank (text : String) : Bool :=
  text.toList.all isBlank

def word (text : List Char) : List Char :=
  text.takeWhile fun char => !isBlank char

def afterWord (text : List Char) : List Char :=
  text.dropWhile fun char => !isBlank char

@[simp]
theorem word_append_afterWord (text : List Char) : word text ++ afterWord text = text :=
  List.takeWhile_append_dropWhile

theorem isBlank_eq_false_of_mem_word {text : List Char} {char : Char}
    (member : char ∈ word text) : isBlank char = false := by
  have all := List.all_takeWhile (p := fun char => !isBlank char) (l := text)
  simpa using List.all_eq_true.1 all char member

def skipBlanks (text : List Char) : List Char :=
  text.dropWhile isBlank

def leadingBlanks (text : List Char) : List Char :=
  text.takeWhile isBlank

@[simp]
theorem leadingBlanks_append_skipBlanks (text : List Char) :
    leadingBlanks text ++ skipBlanks text = text :=
  List.takeWhile_append_dropWhile

end CommandLine.Text
