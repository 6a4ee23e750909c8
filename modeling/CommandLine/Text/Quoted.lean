import CommandLine.Text.Table.Extending
import CommandLine.Text.Table.Unprintable

/-!
# Quoted texts

A text is shown between double quotes so that it takes one line and every
character of it can be told apart.  Quotes and backslashes are escaped, four
controls have short names, and any other character that has no printed form of
its own is written by its code point in braces.
-/

set_option autoImplicit false

namespace CommandLine.Text

/-- A number in lower-case hexadecimal digits without padding. -/
def hexDigits (number : Nat) : List Char :=
  Nat.toDigits 16 number

def escape (char : Char) : List Char :=
  if char = '"' then ['\\', '"']
  else if char = '\\' then ['\\', '\\']
  else if char = '\t' then ['\\', 't']
  else if char = '\n' then ['\\', 'n']
  else if char = '\r' then ['\\', 'r']
  else if char.toNat = 0 then ['\\', '0']
  else if extending.mem char.toNat || unprintable.mem char.toNat then
    ['\\', 'u', '\x7b'] ++ hexDigits char.toNat ++ ['\x7d']
  else [char]

def quoted (text : String) : String :=
  String.ofList ('"' :: text.toList.flatMap escape ++ ['"'])

theorem ne_newline_of_mem_hexDigits {number : Nat} {char : Char}
    (member : char ∈ hexDigits number) : char ≠ '\n' := by
  unfold hexDigits at member
  induction number using Nat.strongRecOn with
  | ind number ih =>
      by_cases small : number < 16
      · rw [Nat.toDigits_of_lt_base small, List.mem_singleton] at member
        subst member
        have digits : ∀ digit < 16, Nat.digitChar digit ≠ '\n' := by decide
        exact digits number small
      · rw [Nat.toDigits_of_base_le (by decide) (by omega), List.mem_append,
          List.mem_singleton] at member
        rcases member with front | rfl
        · exact ih (number / 16) (by omega) front
        · have digits : ∀ digit < 16, Nat.digitChar digit ≠ '\n' := by decide
          exact digits (number % 16) (by omega)

theorem newline_not_mem_escape (char : Char) : '\n' ∉ escape char := by
  unfold escape
  intro member
  repeat' split at member
  all_goals simp at member
  · exact ne_newline_of_mem_hexDigits member rfl
  · exact ‹¬char = '\n'› member.symm

/-- A quoted text never breaks the line that it stands on. -/
theorem newline_not_mem_quoted (text : String) : '\n' ∉ (quoted text).toList := by
  simp [quoted, newline_not_mem_escape]

end CommandLine.Text
