/-!
# Padding

Columns of a listing are lined up by spaces.  A text that is already as long as
its column is left as it is.
-/

set_option autoImplicit false

namespace CommandLine.Text

def spaces (count : Nat) : String :=
  String.ofList (List.replicate count ' ')

def padRight (size : Nat) (text : String) : String :=
  text ++ spaces (size - text.length)

def padLeft (size : Nat) (text : String) : String :=
  spaces (size - text.length) ++ text

@[simp]
theorem length_spaces (count : Nat) : (spaces count).length = count := by
  simp [spaces]

theorem length_padRight (size : Nat) (text : String) :
    (padRight size text).length = max size text.length := by
  simp [padRight]
  omega

theorem length_padLeft (size : Nat) (text : String) :
    (padLeft size text).length = max size text.length := by
  simp [padLeft]
  omega

end CommandLine.Text
