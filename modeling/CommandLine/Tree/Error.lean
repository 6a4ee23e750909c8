import CommandLine.Token.Error

/-!
# Syntax errors

A source has no tree if it cannot be cut into tokens, if a token stands where
it has no meaning, or if its commands are nested too deeply.
-/

set_option autoImplicit false

namespace CommandLine

inductive SyntaxError where
  | lexical (error : LexError)
  /-- Something else than `expected` stands at `span`. -/
  | unexpectedToken (expected found : String) (span : Span)
  /-- The command named at `span` is the first one below the limit. -/
  | nestingTooDeep (limit : Nat) (span : Span)
  deriving DecidableEq, Repr

namespace SyntaxError

def span : SyntaxError → Span
  | .lexical error => error.span
  | .unexpectedToken _ _ span => span
  | .nestingTooDeep _ span => span

/-- Advice for a token out of place: quoted values have two places only. -/
def adviceFor (found : String) : Option String :=
  if "quoted".toList.isPrefixOf found.toList then
    some "quoted values are only accepted as the program name or as option values"
  else
    none

def describe : SyntaxError → Description
  | .lexical error => error.describe
  | .unexpectedToken expected found span =>
      { message := "expected " ++ expected ++ ", found " ++ found
        code := problemCode ["parse", "unexpected_token"]
        help? := adviceFor found
        labels := [⟨"unexpected token", span⟩] }
  | .nestingTooDeep limit span =>
      { message := "commands are nested deeper than the limit of " ++ toString limit
        code := problemCode ["parse", "nesting_too_deep"]
        help? := some "raise the parser's max_depth if this nesting is intended"
        labels := [⟨"nested too deeply", span⟩] }

end SyntaxError

end CommandLine
