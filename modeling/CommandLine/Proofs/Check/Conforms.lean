import CommandLine.Check
import CommandLine.Validate

/-!
# Conformity

What the rules ask of a tree, said without reference to the order in which a
check reads it.  Numbers of occurrences are counted over whole lists of
siblings; nothing is said of first occurrences, of repetitions, or of commands
that are left out of a count.
-/

set_option autoImplicit false

namespace CommandLine

def OptionRule.matches (rule : OptionRule) (option : OptionUse) : Bool :=
  rule.accepts option.name option.dashes

def CommandRule.names (rule : CommandRule) (command : CommandUse) : Bool :=
  command.name == rule.name

namespace Level

structure OptionsConform (level : Level) (options : List OptionUse) : Prop where
  matched : ∀ option ∈ options, ∃ rule ∈ level.options, rule.matches option = true
  required : ∀ rule ∈ level.options, rule.required = true →
    ∃ option ∈ options, rule.matches option = true
  single : ∀ rule ∈ level.options, rule.repeatable = false → options.countP rule.matches ≤ 1
  valued : ∀ rule ∈ level.options, ∀ option ∈ options, rule.matches option = true →
    (rule.expectsValue = true ↔ option.value?.isSome = true)

structure CommandsConform (level : Level) (commands : List CommandUse) : Prop where
  named : ∀ command ∈ commands, ∃ rule ∈ level.commands, rule.names command = true
  each : ∀ rule ∈ level.commands, rule.quantifier.admits (commands.countP rule.names) = true
  total : level.quantifier.admits commands.length = true

/-- What a level asks of the parts of one owner, and of all that lies below. -/
inductive Conforms : Level → List CommandUse → List OptionUse → Prop
  | intro {level : Level} {commands : List CommandUse} {options : List OptionUse}
      (commandsConform : level.CommandsConform commands)
      (optionsConform : level.OptionsConform options)
      (inside : ∀ command ∈ commands, ∀ rule ∈ level.commands, rule.names command = true →
        Conforms rule.level command.commands command.options) :
      Conforms level commands options

theorem conforms_iff (level : Level) (commands : List CommandUse) (options : List OptionUse) :
    level.Conforms commands options ↔
      level.CommandsConform commands ∧ level.OptionsConform options ∧
        ∀ command ∈ commands, ∀ rule ∈ level.commands, rule.names command = true →
          rule.level.Conforms command.commands command.options := by
  constructor
  · intro ⟨commandsConform, optionsConform, inside⟩
    exact ⟨commandsConform, optionsConform, inside⟩
  · intro ⟨commandsConform, optionsConform, inside⟩
    exact .intro commandsConform optionsConform inside

end Level

end CommandLine
