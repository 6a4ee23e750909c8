import CommandLine.Span

/-!
# Descriptions of problems

Everything that can go wrong is explained to a reader in one form: a message, a
stable code, at most one piece of advice, and labels on parts of the source.
-/

set_option autoImplicit false

namespace CommandLine

structure Label where
  text : String
  span : Span
  deriving DecidableEq, Repr

structure Description where
  message : String
  code : String
  help? : Option String
  labels : List Label
  deriving DecidableEq, Repr

/-- The code of a problem: the program, the phase that found it, and its name. -/
def problemCode (path : List String) : String :=
  String.intercalate "::" ("cmdgram" :: path)

end CommandLine
