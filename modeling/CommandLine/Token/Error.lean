import CommandLine.Description

/-!
# Lexical errors

A source fails to be cut into tokens for one of two reasons: a quotation has no
end, or a word that starts like an option lacks its name or its value.
-/

set_option autoImplicit false

namespace CommandLine

inductive LexError where
  /-- No second `quote` follows the one at the start of `span`. -/
  | unterminatedQuote (quote : Char) (span : Span)
  /-- The word `text` starts like an option and is none. -/
  | malformedOption (text reason : String) (span : Span)
  deriving DecidableEq, Repr

namespace LexError

/-- An option of dashes alone. -/
def missingName : String := "missing option name"

/-- An option that ends with its equals sign. -/
def missingValue : String := "missing value after '='"

def span : LexError → Span
  | .unterminatedQuote _ span => span
  | .malformedOption _ _ span => span

def describe : LexError → Description
  | .unterminatedQuote quote span =>
      { message := "unterminated quotation: no closing " ++ quote.toString ++
          " before end of input"
        code := problemCode ["lex", "unterminated_quote"]
        help? := some ("add a closing " ++ quote.toString ++ " to end the quoted value")
        labels := [⟨"quotation starts here", span⟩] }
  | .malformedOption text reason span =>
      { message := "malformed option '" ++ text ++ "': " ++ reason
        code := problemCode ["lex", "malformed_option"]
        help? := some "options are written as -x, --name or --name=value"
        labels := [⟨"malformed option", span⟩] }

end LexError

end CommandLine
