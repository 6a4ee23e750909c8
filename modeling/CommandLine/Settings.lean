/-!
# Settings

A few choices change how a command line is read.
-/

set_option autoImplicit false

namespace CommandLine

inductive ValueStyle where
  /-- Only in its own word, behind an equals sign. -/
  | attached
  /-- In its own word, or else in the next token if that is no option. -/
  | nextToken
  deriving DecidableEq, Repr

structure Settings where
  /-- Starts and ends a quoted value. -/
  quote : Char := '"'
  valueStyle : ValueStyle := .attached
  /-- The deepest nesting of commands; those next to the program have depth one. -/
  maxDepth : Nat := 32
  deriving DecidableEq, Repr

end CommandLine
