import CommandLine.Rule.Fault

/-!
# Grammars

A grammar is a top level of rules without a fault.  Checks are made against
grammars only, so they can rely on distinct names.
-/

set_option autoImplicit false

namespace CommandLine

/-- Rules that some reader has found without fault. -/
structure Grammar where
  level : Level
  faultless : level.fault? = none

def Grammar.ofLevel (level : Level) : Except RuleError Grammar :=
  match faultless : level.fault? with
  | none => .ok ⟨level, faultless⟩
  | some error => .error error

theorem Grammar.ofLevel_eq_error_iff (level : Level) (error : RuleError) :
    Grammar.ofLevel level = .error error ↔ level.fault? = some error := by
  unfold ofLevel
  split <;> simp_all

theorem Grammar.ofLevel_eq_ok_iff (level : Level) (grammar : Grammar) :
    Grammar.ofLevel level = .ok grammar ↔ grammar.level = level := by
  unfold ofLevel
  split
  · cases grammar
    simp [eq_comm]
  · rename_i error found
    simp only [reduceCtorEq, false_iff]
    rintro rfl
    simp [grammar.faultless] at found

end CommandLine
