import CommandLine.Proofs.Check.Anchored
import CommandLine.Proofs.Check.Validity

/-!
# No diagnostic twice

A check never finds the same violation of the same subject at the same place twice
(`Level.violations_differ`), if the parts of the tree are located and rules of one level have
distinct names.  Diagnostics of two siblings lie apart, as the siblings do.  Below a command
all but what it lacks itself lies behind its start, so nothing repeats what was found at the
command.  What is left at one place differs in its kind, or, where the owner lacks several
things, in its subject.
-/

set_option autoImplicit false

namespace CommandLine

def Violation.ofOption : Violation → Bool
  | .unknownOption | .missingOption | .duplicateOption | .missingOptionValue
  | .unexpectedOptionValue => true
  | .unknownCommand | .missingCommand | .duplicateCommand | .unexpectedCommand => false

def Diagnostic.key (diagnostic : Diagnostic) : Violation × Option String × Span :=
  (diagnostic.violation, diagnostic.subject?, diagnostic.span)

def Diagnostic.Differs (diagnostic next : Diagnostic) : Prop :=
  diagnostic.key ≠ next.key

namespace Diagnostic.Differs

variable {diagnostic next : Diagnostic}

theorem of_violation (other : diagnostic.violation ≠ next.violation) :
    diagnostic.Differs next :=
  fun same => other (congrArg (·.1) same)

theorem of_subject (other : diagnostic.subject? ≠ next.subject?) : diagnostic.Differs next :=
  fun same => other (congrArg (·.2.1) same)

theorem of_position (before : diagnostic.span.position < next.span.position) :
    diagnostic.Differs next :=
  fun same => Nat.ne_of_lt before (congrArg (·.2.2.position) same)

/-- Some test of kinds tells them apart. -/
theorem of_test (test : Violation → Bool) (passed : test diagnostic.violation = true)
    (failed : test next.violation = false) : diagnostic.Differs next := by
  refine of_violation fun same => ?_
  rw [same, failed] at passed
  cases passed

/-- What is reported of several names. -/
theorem of_names {α : Type} {named : List α} {name : α → String} (report : α → Diagnostic)
    (names : (named.map name).Nodup) (subject : ∀ one, (report one).subject? = some (name one)) :
    (named.map report).Pairwise Differs := by
  rw [List.pairwise_map]
  refine (List.pairwise_map.1 names).imp fun other => of_subject fun same => other ?_
  rw [subject, subject] at same
  exact Option.some.inj same

theorem symm (differs : diagnostic.Differs next) : next.Differs diagnostic :=
  Ne.symm differs

/-- Places inside two parts that do not overlap differ. -/
theorem of_order {source : String} {first second : Span}
    (within : diagnostic.span.Marks source ∧ first.contains diagnostic.span = true)
    (order : first.stop ≤ second.position) (inside : second.contains next.span = true) :
    diagnostic.Differs next := by
  have nonempty := within.1.position_lt_stop
  have left := (Span.contains_iff ..).1 within.2
  have right := (Span.contains_iff ..).1 inside
  exact of_position (by omega)

end Diagnostic.Differs

namespace Level

open Diagnostic (Differs)

variable {level : Level} {source : String} {scope : Span} {commands : List CommandUse}
  {options : List OptionUse} {diagnostic next : Diagnostic}

/-! ## One command -/

theorem commandFault_differ (earlier : List CommandUse) (name : String) (span : Span) :
    (level.commandFault earlier name span).Pairwise Differs := by
  unfold commandFault
  split
  · exact List.pairwise_singleton ..
  · rename_i rule found
    split
    · cases repeated? rule earlier <;> simp
    · exact List.pairwise_singleton ..

theorem lacks_of_commandFault {earlier : List CommandUse} {name : String} {span : Span}
    (reported : diagnostic ∈ level.commandFault earlier name span) :
    diagnostic.violation.lacks = false := by
  rcases mem_commandFault reported with rfl | rfl | ⟨first, -, rfl⟩ <;> rfl

theorem checkCommand_differ {command : CommandUse} (earlier : List CommandUse)
    (located : ItemsLocated source command.items)
    (inner : ∀ rule, level.permitted? command.name = some rule →
      (rule.level.violations command.span command.commands command.options).Pairwise Differs) :
    (level.checkCommand earlier command).Pairwise Differs := by
  rw [checkCommand_eq, List.pairwise_append]
  refine ⟨commandFault_differ .., ?_, ?_⟩
  · cases permit : level.permitted? command.name with
    | none => exact .nil
    | some rule => exact inner rule permit
  · intro fault reported below inside
    cases permit : level.permitted? command.name with
    | none => rw [permit] at inside; cases inside
    | some rule =>
        rw [permit] at inside
        rcases lacks_or_behind_of_violation (.of_command located) inside with lacks | behind
        · exact .symm (.of_test Violation.lacks lacks (lacks_of_commandFault reported))
        · rw [← span_of_commandFault reported] at behind
          exact .of_position behind

theorem checkEach_differ (located : ∀ command ∈ commands, ItemsLocated source command.items)
    (ordered : commands.Pairwise fun command next => command.span.stop ≤ next.span.position)
    (own : ∀ command ∈ commands, ∀ earlier,
      (level.checkCommand earlier command).Pairwise Differs) :
    ∀ earlier, (level.checkEach earlier commands).Pairwise Differs := by
  induction commands with
  | nil => exact fun _ => .nil
  | cons command rest ih =>
      intro earlier
      rw [List.forall_mem_cons] at located own
      rw [List.pairwise_cons] at ordered
      rw [checkEach, List.pairwise_append]
      refine ⟨own.1 earlier, ih located.2 ordered.2 own.2 _, ?_⟩
      intro here reported later elsewhere
      obtain ⟨front, other, back, split, found⟩ := mem_checkEach elsewhere
      have member : other ∈ rest := by simp [split]
      exact .of_order (marks_inside_of_checkCommand located.1 reported)
        (ordered.1 other member)
        (marks_inside_of_checkCommand (located.2 other member) found).2

/-! ## Totals -/

theorem lacking_sublist (level : Level) (commands : List CommandUse) :
    (level.lacking commands).Sublist level.commands :=
  List.filter_sublist.trans List.filter_sublist

theorem lacking_differ (named : level.WellNamed) (scope : Span) (commands : List CommandUse) :
    ((level.lacking commands).map fun rule =>
      Diagnostic.missingCommand (some rule.name) scope).Pairwise Differs :=
  Differs.of_names _ (named.commandNames.sublist ((level.lacking_sublist commands).map _))
    fun _ => rfl

theorem unexpected_differ (parts : PartsLocated source scope commands options)
    {excess : List CommandUse} (inside : excess.Sublist commands) :
    (excess.map fun command =>
      Diagnostic.unexpectedCommand (some command.name) command.span).Pairwise Differs := by
  rw [List.pairwise_map]
  refine (parts.commands_ordered.sublist inside).imp_of_mem ?_
  intro command next member _ order
  have marks := parts.command_marks (inside.subset member)
  exact .of_position (Nat.lt_of_lt_of_le marks.position_lt_stop order)

theorem totals_differ (named : level.WellNamed)
    (parts : PartsLocated source scope commands options) :
    (level.totals scope commands).Pairwise Differs := by
  obtain ⟨excess, inside, same⟩ := level.exists_excess scope commands
  rw [same, List.pairwise_append, List.pairwise_append]
  refine ⟨⟨lacking_differ named scope commands,
    unexpected_differ parts (inside.trans (level.admitted_sublist [] commands)), ?_⟩, ?_, ?_⟩
  · intro lack lacking surplus unexpected
    obtain ⟨rule, -, rfl⟩ := List.mem_map.1 lacking
    obtain ⟨command, -, rfl⟩ := List.mem_map.1 unexpected
    exact .of_test Violation.lacks rfl rfl
  · split
    · exact List.pairwise_singleton ..
    · exact .nil
  · intro named reported any anyCommand
    obtain rfl : any = .missingCommand none scope := by
      split at anyCommand
      · exact List.mem_singleton.1 anyCommand
      · cases anyCommand
    rcases List.mem_append.1 reported with lacking | unexpected
    · obtain ⟨rule, -, rfl⟩ := List.mem_map.1 lacking
      exact .of_subject (by simp [Diagnostic.missingCommand])
    · obtain ⟨command, -, rfl⟩ := List.mem_map.1 unexpected
      exact .symm (.of_test Violation.lacks rfl rfl)

/-! ## Options -/

theorem lacks_of_optionFaults {earlier : List OptionUse}
    (reported : diagnostic ∈ level.optionFaults earlier options) :
    diagnostic.violation.lacks = false := by
  obtain ⟨front, option, back, -, ⟨-, rfl⟩ | ⟨rule, -, repeated | value⟩⟩ :=
    mem_optionFaults reported
  · rfl
  · obtain ⟨first, -, rfl⟩ := mem_repetition repeated
    rfl
  · rcases mem_valueFault value with rfl | ⟨value, -, rfl⟩ <;> rfl

theorem marks_inside_of_optionFaults {earlier : List OptionUse}
    (located : ∀ option ∈ options, option.Located source)
    (reported : diagnostic ∈ level.optionFaults earlier options) :
    ∃ option ∈ options,
      diagnostic.span.Marks source ∧ option.span.contains diagnostic.span = true := by
  obtain ⟨front, option, back, split, found⟩ := mem_optionFaults reported
  have member : option ∈ options := by simp [split]
  have whole := (located option member).marks
  refine ⟨option, member, ?_⟩
  rcases found with ⟨-, rfl⟩ | ⟨rule, -, repeated | valued⟩
  · exact ⟨whole, Span.contains_self _⟩
  · obtain ⟨first, -, rfl⟩ := mem_repetition repeated
    exact ⟨whole, Span.contains_self _⟩
  · rcases mem_valueFault valued with rfl | ⟨value, given, rfl⟩
    · exact ⟨whole, Span.contains_self _⟩
    · exact ⟨(located option member).value value given, OptionUse.contains_value given⟩

/-- An option may be repeated and have the wrong value at once. -/
theorem optionFault_differ (level : Level) (earlier : List OptionUse) (option : OptionUse) :
    (level.optionFaults earlier [option]).Pairwise Differs := by
  simp only [optionFaults, List.append_nil]
  cases level.option? option.name option.dashes with
  | none => exact List.pairwise_singleton ..
  | some rule =>
      refine List.pairwise_append.2 ⟨?_, ?_, ?_⟩
      · unfold repetition
        split <;> simp
      · unfold valueFault
        split <;> simp
      · intro repeated reported value valued
        obtain ⟨first, -, rfl⟩ := mem_repetition reported
        rcases mem_valueFault valued with rfl | ⟨value, -, rfl⟩
        · exact .of_test (· == .duplicateOption) rfl rfl
        · exact .of_test (· == .duplicateOption) rfl rfl

theorem optionFaults_cons (level : Level) (earlier rest : List OptionUse) (option : OptionUse) :
    level.optionFaults earlier (option :: rest) =
      level.optionFaults earlier [option] ++ level.optionFaults (earlier ++ [option]) rest :=
  optionFaults_append earlier [option] rest

theorem optionFaults_differ (located : ∀ option ∈ options, option.Located source)
    (ordered : options.Pairwise fun option next => option.span.stop ≤ next.span.position) :
    ∀ earlier, (level.optionFaults earlier options).Pairwise Differs := by
  induction options with
  | nil => exact fun _ => .nil
  | cons option rest ih =>
      intro earlier
      rw [List.pairwise_cons] at ordered
      have placed := List.forall_mem_cons.1 located
      rw [optionFaults_cons, List.pairwise_append]
      refine ⟨level.optionFault_differ earlier option, ih placed.2 ordered.2 _, ?_⟩
      intro here reported later elsewhere
      obtain ⟨_, self, within⟩ :=
        marks_inside_of_optionFaults (List.forall_mem_singleton.2 placed.1) reported
      obtain rfl := List.mem_singleton.1 self
      obtain ⟨other, member, inside⟩ := marks_inside_of_optionFaults placed.2 elsewhere
      exact .of_order within (ordered.1 other member) inside.2

theorem checkOptions_differ (named : level.WellNamed)
    (parts : PartsLocated source scope commands options) :
    (level.checkOptions scope options).Pairwise Differs := by
  rw [checkOptions, List.pairwise_append]
  refine ⟨optionFaults_differ (fun _ member => parts.option_located member)
    parts.options_ordered [], ?_, ?_⟩
  · have rules : (level.lackingOptions options).Sublist level.options := List.filter_sublist
    exact Differs.of_names _ (named.optionNames.sublist (rules.map _)) fun _ => rfl
  · intro fault reported lack lacking
    obtain ⟨rule, -, rfl⟩ := List.mem_map.1 lacking
    exact .symm (.of_test Violation.lacks rfl (lacks_of_optionFaults reported))

/-! ## One level -/

theorem permitted_of_admitted {earlier : List CommandUse} {command : CommandUse}
    (counted : command ∈ level.admitted earlier commands) :
    level.permitted? command.name ≠ none := by
  induction commands generalizing earlier with
  | nil => cases counted
  | cons other rest ih =>
      rw [admitted] at counted
      split at counted
      · exact ih counted
      · rename_i rule permit
        split at counted
        · exact ih counted
        · rcases List.mem_cons.1 counted with rfl | later
          · simp [permit]
          · exact ih later

theorem permitted?_of_unexpected {earlier : List CommandUse} {name : String} {span : Span}
    (reported : diagnostic ∈ level.commandFault earlier name span)
    (unexpected : diagnostic.violation = .unexpectedCommand) : level.permitted? name = none := by
  unfold commandFault at reported
  split at reported
  · rw [List.mem_singleton.1 reported] at unexpected
    cases unexpected
  · rename_i rule found
    split at reported
    · obtain ⟨first, -, rfl⟩ := List.mem_map.1 reported
      cases unexpected
    · rename_i forbidden
      simp [permitted?, found, Option.filter, forbidden]

/-- A command in excess is not reported before. -/
theorem checkCommand_differs_excess {earlier : List CommandUse} {command : CommandUse}
    (located : ItemsLocated source command.items)
    (permitted : level.permitted? command.name ≠ none)
    (reported : diagnostic ∈ level.checkCommand earlier command) :
    diagnostic.Differs (.unexpectedCommand (some command.name) command.span) := by
  rcases mem_checkCommand reported with fault | ⟨rule, -, inside⟩
  · exact .of_violation fun same => permitted (permitted?_of_unexpected fault same)
  · rcases lacks_or_behind_of_violation (.of_command located) inside with lacks | behind
    · exact .of_test Violation.lacks lacks rfl
    · exact .symm (.of_position behind)

theorem commands_apart (parts : PartsLocated source scope commands options)
    {command other : CommandUse} (member : command ∈ commands) (inside : other ∈ commands) :
    command = other ∨ command.span.stop ≤ other.span.position ∨
      other.span.stop ≤ command.span.position := by
  refine List.Pairwise.forall_of_forall_of_flip (R := fun command other : CommandUse =>
    command = other ∨ command.span.stop ≤ other.span.position ∨
      other.span.stop ≤ command.span.position) (fun _ _ => .inl rfl) ?_ ?_ member inside
  · exact parts.commands_ordered.imp fun order => .inr (.inl order)
  · exact parts.commands_ordered.imp fun order => .inr (.inr order)

theorem checkEach_differs_totals (parts : PartsLocated source scope commands options)
    (reported : diagnostic ∈ level.checkEach [] commands)
    (total : next ∈ level.totals scope commands) : diagnostic.Differs next := by
  obtain ⟨front, command, back, split, found⟩ := mem_checkEach reported
  have member : command ∈ commands := by simp [split]
  have within := marks_inside_of_checkCommand (parts.command_items member) found
  rcases mem_totals total with ⟨name?, rfl⟩ | ⟨other, counted, rfl⟩
  · have start := (Span.contains_iff ..).1 within.2
    exact .symm (.of_position (Nat.lt_of_lt_of_le (parts.command_behind member) start.1))
  · have inside := (level.admitted_sublist [] commands).subset counted
    rcases commands_apart parts member inside with rfl | before | behind
    · exact checkCommand_differs_excess (parts.command_items member)
        (permitted_of_admitted counted) found
    · exact .of_order within before (Span.contains_self _)
    · exact .symm (.of_order ⟨parts.command_marks inside, Span.contains_self _⟩ behind within.2)

theorem checkEach_differs_checkOptions (parts : PartsLocated source scope commands options)
    (reported : diagnostic ∈ level.checkEach [] commands)
    (given : next ∈ level.checkOptions scope options) : diagnostic.Differs next := by
  obtain ⟨front, command, back, split, found⟩ := mem_checkEach reported
  have member : command ∈ commands := by simp [split]
  have within := marks_inside_of_checkCommand (parts.command_items member) found
  rw [checkOptions, List.mem_append] at given
  rcases given with fault | lacking
  · obtain ⟨option, optionMember, inside⟩ :=
      marks_inside_of_optionFaults (fun _ each => parts.option_located each) fault
    exact .symm (.of_order inside (parts.option_before_command optionMember member) within.2)
  · obtain ⟨rule, -, rfl⟩ := List.mem_map.1 lacking
    have start := (Span.contains_iff ..).1 within.2
    exact .symm (.of_position (Nat.lt_of_lt_of_le (parts.command_behind member) start.1))

theorem ofOption_of_checkOptions (given : diagnostic ∈ level.checkOptions scope options) :
    diagnostic.violation.ofOption = true := by
  rw [checkOptions, List.mem_append] at given
  rcases given with fault | lacking
  · obtain ⟨front, option, back, -, ⟨-, rfl⟩ | ⟨rule, -, repeated | value⟩⟩ :=
      mem_optionFaults fault
    · rfl
    · obtain ⟨first, -, rfl⟩ := mem_repetition repeated
      rfl
    · rcases mem_valueFault value with rfl | ⟨value, -, rfl⟩ <;> rfl
  · obtain ⟨rule, -, rfl⟩ := List.mem_map.1 lacking
    rfl

theorem totals_differs_checkOptions (total : diagnostic ∈ level.totals scope commands)
    (given : next ∈ level.checkOptions scope options) : diagnostic.Differs next := by
  refine .symm (.of_test Violation.ofOption (ofOption_of_checkOptions given) ?_)
  rcases mem_totals total with ⟨name?, rfl⟩ | ⟨command, -, rfl⟩ <;> rfl

/-- One level, from what is known of the levels below it. -/
theorem violations_differ_of_below (named : level.WellNamed)
    (parts : PartsLocated source scope commands options)
    (below : ∀ command ∈ commands, ∀ rule, level.permitted? command.name = some rule →
      (rule.level.violations command.span command.commands command.options).Pairwise Differs) :
    (level.violations scope commands options).Pairwise Differs := by
  rw [violations, List.pairwise_append, List.pairwise_append]
  refine ⟨⟨?_, totals_differ named parts, ?_⟩, checkOptions_differ named parts, ?_⟩
  · refine checkEach_differ (fun _ member => parts.command_items member) parts.commands_ordered
      (fun command member earlier => ?_) []
    exact checkCommand_differ earlier (parts.command_items member) (below command member)
  · intro each reported total found
    exact checkEach_differs_totals parts reported found
  · intro other reported given found
    rcases List.mem_append.1 reported with each | total
    · exact checkEach_differs_checkOptions parts each found
    · exact totals_differs_checkOptions total found

/-! ## All levels -/

theorem violations_below_differ (command : CommandUse) :
    ∀ level : Level, (∀ target, level.Reaches target → target.WellNamed) → ∀ scope : Span,
      PartsLocated source scope command.commands command.options →
      (level.violations scope command.commands command.options).Pairwise Differs := by
  induction command using CommandUse.induction with
  | step name nameSpan commands options ih =>
      intro level named scope parts
      refine violations_differ_of_below (named level (.here level)) parts ?_
      intro command member rule permit
      obtain ⟨declared, -, -, occurs⟩ :=
        (permitted?_eq_some_iff (named level (.here level)) ..).1 permit
      exact ih command member rule.level
        (fun target reached => named target (.down declared occurs reached)) command.span
        (.of_command (parts.command_items member))

theorem violations_differ (named : ∀ target, level.Reaches target → target.WellNamed)
    (parts : PartsLocated source scope commands options) :
    (level.violations scope commands options).Pairwise Differs :=
  violations_below_differ ⟨"", .point 0, commands, options⟩ level named scope parts

end Level

end CommandLine
