import CommandLine.Cli.Arguments
import CommandLine.Json.Encode
import CommandLine.Token.Listing
import CommandLine.Tree.Outline
import CommandLine.Tree.Parse

/-!
# Running an invocation

An invocation runs one phase of the library over its command line.  Its output
is a styled text, so that the caller may write it with or without colours.
-/

set_option autoImplicit false

namespace CommandLine.Cli

open Text (Segment Styled)

def Invocation.run (invocation : Invocation) : Except SyntaxError Styled :=
  match invocation.task with
  | .listTokens line =>
      match tokenize invocation.settings.quote line with
      | .ok tokens => .ok (Token.listing tokens)
      | .error error => .error (.lexical error)
  | .showTree line json =>
      match Tree.parse invocation.settings line with
      | .ok tree => .ok [.plain (if json then tree.toJson.pretty ++ "\n" else tree.outline)]
      | .error error => .error error

end CommandLine.Cli
