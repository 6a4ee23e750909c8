import CommandLine.Text.Pad
import CommandLine.Text.Quoted
import CommandLine.Text.Styled
import CommandLine.Token

/-!
# Listings of tokens

A listing shows one token a line: its span, its kind in a colour of its own,
and its text.  Commands and the names of options cannot hold a blank and are
shown as they are; program names and values are quoted.
-/

set_option autoImplicit false

namespace CommandLine

open Text (Colour Segment Style Styled padRight quoted)

def Token.Kind.word : Token.Kind → String
  | .program _ => "program"
  | .command _ => "command"
  | .option _ => "option"
  | .value _ => "value"

def Token.Kind.colour : Token.Kind → Colour
  | .program _ => .magenta
  | .command _ => .green
  | .option _ => .cyan
  | .value _ => .yellow

def Token.Kind.detail : Token.Kind → String
  | .program literal => quoted literal.text
  | .command name => name
  | .option given =>
      given.dashes.text ++ given.name ++
        match given.value? with
        | none => ""
        | some attached => " = " ++ quoted attached.literal.text
  | .value literal => quoted literal.text

def Token.line (token : Token) : Styled :=
  [.plain (padRight 10 token.span.text ++ " "),
    ⟨some ⟨false, some token.kind.colour⟩, padRight 8 token.kind.word⟩,
    .plain (" " ++ token.kind.detail ++ "\n")]

def Token.listing (tokens : List Token) : Styled :=
  tokens.flatMap Token.line

end CommandLine
