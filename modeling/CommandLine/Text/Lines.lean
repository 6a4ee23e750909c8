/-!
# Lines of a text

A line ends at a newline character.  `afterLastBreak` and `beforeFirstBreak`
are the two halves of the line around a place in a text: what the text before
the place holds of that line, and what the text after it does.
-/

set_option autoImplicit false

namespace CommandLine.Text

def afterLastBreak (text : List Char) : List Char :=
  (text.reverse.takeWhile (· != '\n')).reverse

def beforeFirstBreak (text : List Char) : List Char :=
  text.takeWhile (· != '\n')

def breaks (text : List Char) : Nat :=
  text.count '\n'

theorem newline_not_mem_beforeFirstBreak (text : List Char) :
    '\n' ∉ beforeFirstBreak text := by
  intro member
  have all := List.all_takeWhile (p := (· != '\n')) (l := text)
  simpa using List.all_eq_true.1 all '\n' member

theorem newline_not_mem_afterLastBreak (text : List Char) :
    '\n' ∉ afterLastBreak text := by
  intro member
  exact newline_not_mem_beforeFirstBreak text.reverse (List.mem_reverse.1 member)

end CommandLine.Text
