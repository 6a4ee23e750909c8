import CommandLine.Proofs.Rule.Names
import CommandLine.Rule.Grammar

/-!
# Levels of a grammar

The levels of a grammar are its top level and the levels below each command that
may occur.  Faults are looked for on all of them, so what a level without a fault
of its own has, every level of a grammar has.
-/

set_option autoImplicit false

namespace CommandLine

/-- A level lies on the way down from another one, through rules of commands
that may occur. -/
inductive Level.Reaches : Level → Level → Prop
  | here (level : Level) : Reaches level level
  | down {level target : Level} {rule : CommandRule} (declared : rule ∈ level.commands)
      (occurs : rule.quantifier ≠ .zero) (further : Reaches rule.level target) :
      Reaches level target

structure Level.FaultlessUnder (level : Level) (owners : List String) : Prop where
  own : level.ownFault? owners = none
  below : CommandRule.firstFault? owners level.commands = none

theorem CommandRule.firstFault?_eq_none_iff (owners : List String) (rules : List CommandRule) :
    CommandRule.firstFault? owners rules = none ↔ ∀ rule ∈ rules, rule.fault? owners = none := by
  induction rules with
  | nil => simp [CommandRule.firstFault?]
  | cons rule rest ih => simp [CommandRule.firstFault?, ih]

theorem CommandRule.fault?_eq_none_iff_of_occurs {rule : CommandRule} (owners : List String)
    (occurs : rule.quantifier ≠ .zero) :
    rule.fault? owners = none ↔ rule.level.FaultlessUnder (owners ++ [rule.name]) := by
  rcases rule with ⟨name, quantifier, subcommands, commands, options⟩
  rw [CommandRule.fault?, if_neg occurs, Option.orElse_eq_orElse, Option.orElse_eq_or,
    Option.or_eq_none_iff]
  exact ⟨fun ⟨own, below⟩ => ⟨own, below⟩, fun ⟨own, below⟩ => ⟨own, below⟩⟩

theorem Level.fault?_eq_none_iff (level : Level) :
    level.fault? = none ↔ level.FaultlessUnder [] := by
  rw [Level.fault?, Option.orElse_eq_orElse, Option.orElse_eq_or, Option.or_eq_none_iff]
  exact ⟨fun ⟨own, below⟩ => ⟨own, below⟩, fun ⟨own, below⟩ => ⟨own, below⟩⟩

theorem Level.FaultlessUnder.of_reaches {level target : Level} {owners : List String}
    (reached : level.Reaches target) (faultless : level.FaultlessUnder owners) :
    ∃ path, target.FaultlessUnder path := by
  induction reached generalizing owners with
  | here level => exact ⟨owners, faultless⟩
  | @down level target rule declared occurs further ih =>
      have clean : rule.fault? owners = none :=
        (CommandRule.firstFault?_eq_none_iff owners level.commands).1 faultless.below rule declared
      exact ih ((CommandRule.fault?_eq_none_iff_of_occurs owners occurs).1 clean)

theorem Level.FaultlessUnder.wellNamed {level : Level} {owners : List String}
    (faultless : level.FaultlessUnder owners) : level.WellNamed := by
  have own := faultless.own
  simp only [Level.ownFault?, Option.orElse_eq_orElse, Option.orElse_eq_or,
    Option.or_eq_none_iff] at own
  exact (level.nameFault?_eq_none_iff_wellNamed _).1 own.1

/-- Names can be told apart on every level on which a check is made. -/
theorem Grammar.wellNamed_of_reaches (grammar : Grammar) {level : Level}
    (reached : grammar.level.Reaches level) : level.WellNamed := by
  have faultless := (Level.fault?_eq_none_iff grammar.level).1 grammar.faultless
  obtain ⟨path, clean⟩ := faultless.of_reaches reached
  exact clean.wellNamed

end CommandLine
