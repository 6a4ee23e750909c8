import CommandLine.Description

/-!
# Errors in rules

Rules are refused when two siblings cannot be told apart, when a rule has no
name, or when no command line could ever satisfy them.  The path of an error
names the commands around the rule, from the top level down.
-/

set_option autoImplicit false

namespace CommandLine

inductive RuleSort where
  | command
  | option
  deriving DecidableEq, Repr

def RuleSort.text : RuleSort → String
  | .command => "command"
  | .option => "option"

inductive RuleError where
  | duplicateName (sort : RuleSort) (name path : String)
  | unsatisfiable (name path reason : String)
  | emptyName (sort : RuleSort) (path : String)
  deriving DecidableEq, Repr

def RuleError.describe : RuleError → Description
  | .duplicateName sort name path =>
      { message := "duplicate " ++ sort.text ++ " rule '" ++ name ++ "' under " ++ path
        code := problemCode ["rules", "duplicate_rule_name"]
        help? := some "sibling rules must have distinct names and short aliases"
        labels := [] }
  | .unsatisfiable name path reason =>
      { message := "rule '" ++ name ++ "' under " ++ path ++ " can never be satisfied: " ++ reason
        code := problemCode ["rules", "unsatisfiable_rule"]
        help? := some "relax the quantifier or remove the conflicting rule"
        labels := [] }
  | .emptyName sort path =>
      { message := sort.text ++ " rule under " ++ path ++ " has an empty name"
        code := problemCode ["rules", "empty_name"]
        help? := some "give every rule a non-empty name"
        labels := [] }

end CommandLine
