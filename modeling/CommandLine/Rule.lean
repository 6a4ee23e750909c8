import CommandLine.Rule.Quantifier
import CommandLine.Token

/-!
# Rules

Rules declare the commands and options that a command line may hold.  They come
in levels: the top level is for the parts next to the program name, and each
command rule has a level of its own for the parts below that command.
-/

set_option autoImplicit false

namespace CommandLine

structure OptionRule where
  name : String
  /-- One letter that stands for the name behind a single dash. -/
  short? : Option Char
  required : Bool
  expectsValue : Bool
  repeatable : Bool
  deriving DecidableEq, Repr

/-- Declares a command and what may stand below it. -/
structure CommandRule where
  name : String
  /-- How often the command may occur among its siblings. -/
  quantifier : Quantifier
  /-- How many commands may stand below one occurrence in total. -/
  subcommands : Quantifier
  commands : List CommandRule
  options : List OptionRule
  deriving BEq, Repr

/-- The rules for one level of nesting. -/
structure Level where
  /-- How many commands the level may hold in total. -/
  quantifier : Quantifier
  commands : List CommandRule
  options : List OptionRule
  deriving BEq, Repr

/-- Proves a property of every command rule from the rules below it. -/
theorem CommandRule.induction {motive : CommandRule → Prop}
    (step : ∀ name quantifier subcommands commands options,
      (∀ rule ∈ commands, motive rule) →
        motive ⟨name, quantifier, subcommands, commands, options⟩)
    (rule : CommandRule) : motive rule :=
  CommandRule.rec (motive_1 := motive) (motive_2 := fun list => ∀ rule ∈ list, motive rule)
    (fun name quantifier subcommands commands options below =>
      step name quantifier subcommands commands options below)
    (by simp)
    (fun _ _ first rest => by simpa using ⟨first, rest⟩)
    rule

def CommandRule.level (rule : CommandRule) : Level :=
  ⟨rule.subcommands, rule.commands, rule.options⟩

/-- Whether the rule is for an option of this spelling.  The full name stands
behind one dash or two, the letter behind a single dash only. -/
def OptionRule.accepts (rule : OptionRule) (name : String) (dashes : Dashes) : Bool :=
  rule.name == name ||
    (dashes == .short && rule.short?.any fun letter => name == letter.toString)

namespace Level

def command? (level : Level) (name : String) : Option CommandRule :=
  level.commands.find? fun rule => rule.name == name

/-- The first rule of this full name, or else the first one that accepts the
spelling. -/
def option? (level : Level) (name : String) (dashes : Dashes) : Option OptionRule :=
  match level.options.find? fun rule => rule.name == name with
  | some rule => some rule
  | none => level.options.find? fun rule => rule.accepts name dashes

theorem mem_of_command? {level : Level} {name : String} {rule : CommandRule}
    (found : level.command? name = some rule) : rule ∈ level.commands ∧ rule.name = name := by
  refine ⟨List.mem_of_find?_eq_some found, ?_⟩
  simpa using List.find?_some found

theorem accepts_of_option? {level : Level} {name : String} {dashes : Dashes} {rule : OptionRule}
    (found : level.option? name dashes = some rule) :
    rule ∈ level.options ∧ rule.accepts name dashes = true := by
  unfold option? at found
  split at found
  · rename_i exact named
    cases found
    have same := List.find?_some named
    exact ⟨List.mem_of_find?_eq_some named, by simp [OptionRule.accepts, same]⟩
  · exact ⟨List.mem_of_find?_eq_some found, by simpa using List.find?_some found⟩

end Level

end CommandLine
