import CommandLine.Check
import CommandLine.Tree.Parse

/-!
# Validating a source

A source is valid if it has a tree and the tree satisfies the grammar.  Every
way to fail, in reading the source, in building the rules or in the check, is a
`Failure`.
-/

set_option autoImplicit false

namespace CommandLine

inductive Failure where
  | reading (error : SyntaxError)
  | rules (error : RuleError)
  /-- The source violates the rules; there is at least one diagnostic. -/
  | validation (source : String) (diagnostics : List Diagnostic)
  deriving DecidableEq, Repr

namespace Failure

/-- One diagnostic in full, or else their number. -/
def countMessage (diagnostics : List Diagnostic) : String :=
  match diagnostics with
  | [only] => "invalid command line: " ++ only.message
  | many => "invalid command line: " ++ toString many.length ++ " problems found"

/-- How the failure is explained; the diagnostics of a check are explained one
by one besides. -/
def describe : Failure → Description
  | .reading error => error.describe
  | .rules error => error.describe
  | .validation _ diagnostics =>
      { message := countMessage diagnostics
        code := problemCode ["validation"]
        help? := none
        labels := [] }

def diagnostics : Failure → List Diagnostic
  | .validation _ diagnostics => diagnostics
  | _ => []

def source? : Failure → Option String
  | .validation source _ => some source
  | _ => none

end Failure

def outcome (source : String) (diagnostics : List Diagnostic) : Except Failure Unit :=
  if diagnostics.isEmpty then .ok () else .error (.validation source diagnostics)

/-- The tree of a source, if it has one and the tree satisfies the grammar. -/
def validate (settings : Settings) (grammar : Grammar) (source : String) :
    Except Failure Tree :=
  match Tree.parse settings source with
  | .error error => .error (.reading error)
  | .ok tree =>
      match outcome source (check grammar tree) with
      | .error failure => .error failure
      | .ok () => .ok tree

end CommandLine
