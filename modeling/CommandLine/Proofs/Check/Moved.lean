import CommandLine.Check
import CommandLine.Proofs.Tree.Moved
import Mathlib.Order.MinMax

/-!
# Checks of moved trees

A check looks at names and values.  Places it only hands on: to the diagnostics, and on the
way it takes the least offset below a command.  So a check of parts that were moved by a
monotone function finds the moved diagnostics, in the order in which they were found
before (`violations_moved`).  Diagnostics are compared by where their spans start.
-/

set_option autoImplicit false

namespace CommandLine

def Diagnostic.moved (move : Nat → Nat) (diagnostic : Diagnostic) : Diagnostic :=
  { diagnostic with
    span := diagnostic.span.moved move
    related? := diagnostic.related?.map (Span.moved move) }

section Moved

variable {move : Nat → Nat}

@[simp]
theorem OptionUse.name_moved (option : OptionUse) : (option.moved move).name = option.name := rfl

@[simp]
theorem OptionUse.dashes_moved (option : OptionUse) :
    (option.moved move).dashes = option.dashes := rfl

@[simp]
theorem OptionUse.value?_moved (option : OptionUse) :
    (option.moved move).value? = option.value?.map (Value.moved move) := rfl

@[simp]
theorem CommandUse.name_moved (command : CommandUse) :
    (command.moved move).name = command.name := by
  rw [moved_eq]

/-! ## Where moved parts start -/

theorem Span.moved_id_moved (span : Span) : (span.moved move).moved id = span.moved move := rfl

theorem Span.moved_cover (monotone : Monotone move) {first second : Span} {target other : Span}
    (firstAt : first.moved id = target.moved move)
    (secondAt : second.moved id = other.moved move) :
    (first.cover second).moved id = (target.cover other).moved move := by
  simp only [moved, point, position_cover, Span.mk.injEq, and_true, id] at *
  rw [firstAt, secondAt, monotone.map_min]

theorem OptionUse.span_moved (monotone : Monotone move) (option : OptionUse) :
    (option.moved move).span.moved id = option.span.moved move := by
  rcases option with ⟨name, nameSpan, dashes, value?⟩
  cases value? with
  | none => rfl
  | some value => exact Span.moved_cover monotone rfl rfl

theorem Span.moved_foldl_cover {α : Type} (monotone : Monotone move) (place : α → Span)
    (moving : α → α) {parts : List α}
    (each : ∀ part ∈ parts, (place (moving part)).moved id = (place part).moved move)
    {first target : Span} (firstAt : first.moved id = target.moved move) :
    ((parts.map moving).foldl (fun covered part => covered.cover (place part)) first).moved id =
      (parts.foldl (fun covered part => covered.cover (place part)) target).moved move := by
  induction parts generalizing first target with
  | nil => exact firstAt
  | cons part rest ih =>
      exact ih (fun later member => each later (by simp [member]))
        (moved_cover monotone firstAt (each part (by simp)))

theorem CommandUse.span_moved (monotone : Monotone move) (command : CommandUse) :
    (command.moved move).span.moved id = command.span.moved move := by
  induction command using CommandUse.induction with
  | step name nameSpan commands options ih =>
      rw [moved_eq, span_eq, span_eq]
      exact Span.moved_foldl_cover monotone OptionUse.span _
        (fun option _ => option.span_moved monotone)
        (Span.moved_foldl_cover monotone CommandUse.span _ ih rfl)

end Moved

namespace Level

variable (level : Level) {move : Nat → Nat}

/-! ## Moved commands -/

theorem repeated?_moved (rule : CommandRule) (earlier : List CommandUse) :
    repeated? rule (earlier.map (CommandUse.moved move)) =
      (repeated? rule earlier).map (CommandUse.moved move) := by
  unfold repeated?
  split
  · rw [List.find?_map]
    simp only [Function.comp_def, CommandUse.name_moved]
  · rfl

theorem admitted_moved (earlier commands : List CommandUse) :
    level.admitted (earlier.map (CommandUse.moved move)) (commands.map (CommandUse.moved move)) =
      (level.admitted earlier commands).map (CommandUse.moved move) := by
  induction commands generalizing earlier with
  | nil => rfl
  | cons command rest ih =>
      have later := ih (earlier ++ [command])
      rw [List.map_append, List.map_singleton] at later
      rw [List.map_cons, admitted, admitted, later, CommandUse.name_moved]
      cases level.permitted? command.name with
      | none => rfl
      | some rule =>
          simp only [repeated?_moved, Option.isSome_map]
          split <;> rfl

theorem lacking_moved (commands : List CommandUse) :
    level.lacking (commands.map (CommandUse.moved move)) = level.lacking commands := by
  simp [lacking, List.any_map, Function.comp_def]

theorem totals_moved (monotone : Monotone move) {scope target : Span}
    (place : scope.moved id = target.moved move) (commands : List CommandUse) :
    (level.totals scope (commands.map (CommandUse.moved move))).map (Diagnostic.moved id) =
      (level.totals target commands).map (Diagnostic.moved move) := by
  have admitted : level.admitted [] (commands.map (CommandUse.moved move)) =
      (level.admitted [] commands).map (CommandUse.moved move) :=
    level.admitted_moved [] commands
  unfold totals
  rw [lacking_moved, admitted]
  cases level.quantifier.most? <;>
    simp [List.map_drop, Function.comp_def, Diagnostic.moved, Diagnostic.missingCommand,
      Diagnostic.unexpectedCommand, place, CommandUse.span_moved monotone, apply_ite]

theorem commandFault_moved (monotone : Monotone move) (earlier : List CommandUse) (name : String)
    {span target : Span} (place : span.moved id = target.moved move) :
    (level.commandFault (earlier.map (CommandUse.moved move)) name span).map
        (Diagnostic.moved id) =
      (level.commandFault earlier name target).map (Diagnostic.moved move) := by
  unfold commandFault
  cases level.command? name with
  | none => simp [Diagnostic.moved, Diagnostic.unknownCommand, Violation.about, place]
  | some rule =>
      dsimp only
      rw [repeated?_moved]
      cases level.permits rule with
      | false => simp [Diagnostic.moved, Diagnostic.unexpectedCommand, place]
      | true =>
          cases repeated? rule earlier <;>
            simp [Diagnostic.moved, Diagnostic.duplicateCommand, place,
              CommandUse.span_moved monotone]

/-! ## Moved options -/

theorem fallsUnder_moved (rule : OptionRule) (option : OptionUse) :
    level.fallsUnder rule (option.moved move) = level.fallsUnder rule option := rfl

theorem repetition_moved (monotone : Monotone move) (rule : OptionRule)
    (earlier : List OptionUse) (option : OptionUse) :
    (level.repetition rule (earlier.map (OptionUse.moved move)) (option.moved move)).map
        (Diagnostic.moved id) =
      (level.repetition rule earlier option).map (Diagnostic.moved move) := by
  have first : (earlier.map (OptionUse.moved move)).find? (level.fallsUnder rule) =
      (earlier.find? (level.fallsUnder rule)).map (OptionUse.moved move) := by
    rw [List.find?_map]
    rfl
  unfold repetition
  rw [first]
  cases rule.repeatable <;> cases earlier.find? (level.fallsUnder rule) <;>
    simp [Diagnostic.moved, Diagnostic.duplicateOption, OptionUse.span_moved monotone]

theorem valueFault_moved (monotone : Monotone move) (rule : OptionRule) (option : OptionUse) :
    (valueFault rule (option.moved move)).map (Diagnostic.moved id) =
      (valueFault rule option).map (Diagnostic.moved move) := by
  unfold valueFault
  rw [OptionUse.value?_moved]
  cases rule.expectsValue <;> cases option.value? <;>
    simp [Diagnostic.moved, Diagnostic.missingOptionValue, Diagnostic.unexpectedOptionValue,
      Violation.about, OptionUse.span_moved monotone, Value.moved, Span.moved_id_moved]

theorem optionFaults_moved (monotone : Monotone move) (earlier options : List OptionUse) :
    (level.optionFaults (earlier.map (OptionUse.moved move))
        (options.map (OptionUse.moved move))).map (Diagnostic.moved id) =
      (level.optionFaults earlier options).map (Diagnostic.moved move) := by
  induction options generalizing earlier with
  | nil => rfl
  | cons option rest ih =>
      have later := ih (earlier ++ [option])
      rw [List.map_append, List.map_singleton] at later
      rw [List.map_cons, optionFaults, optionFaults, List.map_append, List.map_append, later]
      congr 1
      rw [OptionUse.name_moved, OptionUse.dashes_moved]
      cases level.option? option.name option.dashes with
      | none =>
          simp [Diagnostic.moved, Diagnostic.unknownOption, Violation.about,
            OptionUse.span_moved monotone]
      | some rule =>
          rw [List.map_append, List.map_append, repetition_moved _ monotone,
            valueFault_moved monotone]

theorem lackingOptions_moved (options : List OptionUse) :
    level.lackingOptions (options.map (OptionUse.moved move)) = level.lackingOptions options := by
  simp [lackingOptions, List.any_map, Function.comp_def, fallsUnder_moved]

theorem checkOptions_moved (monotone : Monotone move) {scope target : Span}
    (place : scope.moved id = target.moved move) (options : List OptionUse) :
    (level.checkOptions scope (options.map (OptionUse.moved move))).map (Diagnostic.moved id) =
      (level.checkOptions target options).map (Diagnostic.moved move) := by
  have faults := level.optionFaults_moved monotone [] options
  rw [List.map_nil] at faults
  rw [checkOptions, checkOptions, List.map_append, List.map_append, faults, lackingOptions_moved]
  simp [Function.comp_def, Diagnostic.moved, Diagnostic.missingOption, Violation.about, place]

/-! ## Moved levels -/

/-- One level of a check, from what is known of the commands on it. -/
theorem checkEach_moved_of_below (monotone : Monotone move) (commands : List CommandUse)
    (below : ∀ command ∈ commands, ∀ (level : Level) (scope target : Span),
      scope.moved id = target.moved move →
      (level.violations scope (command.commands.map (CommandUse.moved move))
          (command.options.map (OptionUse.moved move))).map (Diagnostic.moved id) =
        (level.violations target command.commands command.options).map (Diagnostic.moved move))
    (earlier : List CommandUse) :
    (level.checkEach (earlier.map (CommandUse.moved move))
        (commands.map (CommandUse.moved move))).map (Diagnostic.moved id) =
      (level.checkEach earlier commands).map (Diagnostic.moved move) := by
  induction commands generalizing earlier with
  | nil => rfl
  | cons command rest ih =>
      have later := ih (fun other member => below other (by simp [member])) (earlier ++ [command])
      rw [List.map_append, List.map_singleton] at later
      have place := command.span_moved monotone
      rw [List.map_cons, checkEach, checkEach, List.map_append, List.map_append, later,
        checkCommand_eq, checkCommand_eq, List.map_append, List.map_append,
        CommandUse.name_moved, level.commandFault_moved monotone earlier command.name place]
      congr 2
      cases level.permitted? command.name with
      | none => rfl
      | some rule =>
          have inside := below command (by simp) rule.level _ _ place
          simpa [CommandUse.moved_eq] using inside

theorem violations_below_moved (monotone : Monotone move) (command : CommandUse) :
    ∀ (level : Level) (scope target : Span), scope.moved id = target.moved move →
      (level.violations scope (command.commands.map (CommandUse.moved move))
          (command.options.map (OptionUse.moved move))).map (Diagnostic.moved id) =
        (level.violations target command.commands command.options).map
          (Diagnostic.moved move) := by
  induction command using CommandUse.induction with
  | step name nameSpan commands options ih =>
      intro level scope target place
      simp only [violations, List.map_append, level.totals_moved monotone place,
        level.checkOptions_moved monotone place]
      congr 2
      exact level.checkEach_moved_of_below monotone commands ih []

/-- A check of moved parts finds the moved diagnostics. -/
theorem violations_moved (monotone : Monotone move) {scope target : Span}
    (place : scope.moved id = target.moved move) (commands : List CommandUse)
    (options : List OptionUse) :
    (level.violations scope (commands.map (CommandUse.moved move))
        (options.map (OptionUse.moved move))).map (Diagnostic.moved id) =
      (level.violations target commands options).map (Diagnostic.moved move) :=
  violations_below_moved monotone ⟨"", .point 0, commands, options⟩ level scope target place

end Level

end CommandLine
