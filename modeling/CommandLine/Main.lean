import CommandLine.Cli.Run

/-!
# The program

Reads the argument list, runs the invocation and writes its output; problems go
to the error stream.  Colours are used on a terminal only.
-/

set_option autoImplicit false

namespace CommandLine.Cli

def usage : String :=
  "usage: [--quote C] [--next-token-values] [--max-depth N] tokens|ast [--json] LINE\n"

def ArgumentError.message : ArgumentError → String
  | .helpWanted | .nothingGiven => usage
  | .versionWanted => "0.1.0\n"
  | .missingTask => "error: a task is needed\n" ++ usage
  | .unknownTask => "error: there is no such task\n" ++ usage
  | .unknownArgument => "error: unexpected argument\n" ++ usage
  | .missingLine => "error: a command line is needed\n" ++ usage
  | .repeatedFlag => "error: a flag cannot be given twice\n" ++ usage
  | .missingValue => "error: a flag needs a value\n" ++ usage
  | .unwantedValue => "error: a flag takes no value\n" ++ usage
  | .badValue reason => "error: " ++ reason ++ "\n" ++ usage

/-- Whether an argument list asks for information, which is no failure. -/
def ArgumentError.isRequest : ArgumentError → Bool
  | .helpWanted | .versionWanted => true
  | _ => false

def problemText (source : String) (problem : Description) : String :=
  let place (label : Label) : String :=
    "  " ++ toString (label.span.line source) ++ ":" ++ toString (label.span.column source) ++
      ": " ++ label.text ++ "\n"
  problem.code ++ ": " ++ problem.message ++ "\n" ++ String.join (problem.labels.map place) ++
    match problem.help? with
    | none => ""
    | some advice => "  help: " ++ advice ++ "\n"

def Task.line : Task → String
  | .listTokens line => line
  | .showTree line _ => line

end CommandLine.Cli

open CommandLine.Cli in
def main (arguments : List String) : IO UInt32 := do
  let output ← IO.getStdout
  let errors ← IO.getStderr
  match Invocation.ofArguments arguments with
  | .error request =>
      if request.isRequest then
        output.putStr request.message
        return 0
      else
        errors.putStr request.message
        return 2
  | .ok invocation =>
      match invocation.run with
      | .error error =>
          errors.putStr (problemText invocation.task.line error.describe)
          return 1
      | .ok document =>
          output.putStr (if ← output.isTty then document.terminal else document.unstyled)
          return 0
