import CommandLine.Check
import CommandLine.Proofs.Tree.Source

/-!
# Where diagnostics lie

A level of a check puts each of its diagnostics at one of its commands, options or values,
or at its owner for what is lacking: `Diagnostic.Anchored`.  All diagnostics of a check are
anchored like this, at the level itself or at a command somewhere below it
(`Level.anchored_of_violation`).  In a located tree they therefore mark parts of the source,
a repetition behind what it repeats (`Level.placed_of_violation`), and lie inside the command
that was checked (`Level.contains_of_violation`).
-/

set_option autoImplicit false

namespace CommandLine

/-! ## One level -/

/-- A diagnostic that a level may find among the commands and options of an owner, and
where it is put; `scope` is the place of the owner. -/
inductive Diagnostic.Anchored (scope : Span) (commands : List CommandUse)
    (options : List OptionUse) : Diagnostic → Prop
  | unknownCommand {command : CommandUse} (member : command ∈ commands) :
      Anchored scope commands options (.unknownCommand command.name command.span)
  | unexpectedCommand {command : CommandUse} (member : command ∈ commands) :
      Anchored scope commands options (.unexpectedCommand (some command.name) command.span)
  | duplicateCommand {front back : List CommandUse} {command first : CommandUse}
      (split : commands = front ++ command :: back) (earlier : first ∈ front) :
      Anchored scope commands options (.duplicateCommand command.name command.span first.span)
  | missingCommand (name? : Option String) :
      Anchored scope commands options (.missingCommand name? scope)
  | unknownOption {option : OptionUse} (member : option ∈ options) :
      Anchored scope commands options (.unknownOption option.name option.span)
  | duplicateOption {front back : List OptionUse} {option first : OptionUse} (name : String)
      (split : options = front ++ option :: back) (earlier : first ∈ front) :
      Anchored scope commands options (.duplicateOption name option.span first.span)
  | missingOptionValue {option : OptionUse} (name : String) (member : option ∈ options) :
      Anchored scope commands options (.missingOptionValue name option.span)
  | unexpectedOptionValue {option : OptionUse} {value : Value} (name : String)
      (member : option ∈ options) (given : option.value? = some value) :
      Anchored scope commands options (.unexpectedOptionValue name value.span)
  | missingOption (name : String) :
      Anchored scope commands options (.missingOption name scope)

namespace Level

variable {level : Level} {scope : Span} {commands : List CommandUse} {options : List OptionUse}
  {diagnostic : Diagnostic}

theorem admitted_sublist (level : Level) (earlier commands : List CommandUse) :
    (level.admitted earlier commands).Sublist commands := by
  induction commands generalizing earlier with
  | nil => exact .slnil
  | cons command rest ih =>
      rw [admitted]
      split
      · exact (ih _).cons _
      · split
        · exact (ih _).cons _
        · exact (ih _).cons_cons _

theorem mem_checkEach {earlier : List CommandUse}
    (reported : diagnostic ∈ level.checkEach earlier commands) :
    ∃ front command back, commands = front ++ command :: back ∧
      diagnostic ∈ level.checkCommand (earlier ++ front) command := by
  induction commands generalizing earlier with
  | nil => cases reported
  | cons command rest ih =>
      rw [checkEach, List.mem_append] at reported
      rcases reported with here | later
      · exact ⟨[], command, rest, rfl, by rwa [List.append_nil]⟩
      · obtain ⟨front, other, back, rfl, found⟩ := ih later
        exact ⟨command :: front, other, back, rfl, by simpa using found⟩

theorem mem_optionFaults {earlier : List OptionUse}
    (reported : diagnostic ∈ level.optionFaults earlier options) :
    ∃ front option back, options = front ++ option :: back ∧
      ((level.option? option.name option.dashes = none ∧
          diagnostic = .unknownOption option.name option.span) ∨
        ∃ rule, level.option? option.name option.dashes = some rule ∧
          (diagnostic ∈ level.repetition rule (earlier ++ front) option ∨
            diagnostic ∈ valueFault rule option)) := by
  induction options generalizing earlier with
  | nil => cases reported
  | cons option rest ih =>
      rw [optionFaults, List.mem_append] at reported
      rcases reported with here | later
      · refine ⟨[], option, rest, rfl, ?_⟩
        rw [List.append_nil]
        cases found : level.option? option.name option.dashes with
        | none => exact .inl ⟨rfl, by simpa [found] using here⟩
        | some rule => exact .inr ⟨rule, rfl, by simpa [found] using here⟩
      · obtain ⟨front, other, back, rfl, found⟩ := ih later
        exact ⟨option :: front, other, back, rfl, by simpa using found⟩

theorem mem_commandFault {earlier : List CommandUse} {name : String} {span : Span}
    (reported : diagnostic ∈ level.commandFault earlier name span) :
    diagnostic = .unknownCommand name span ∨ diagnostic = .unexpectedCommand (some name) span ∨
      ∃ first ∈ earlier, diagnostic = .duplicateCommand name span first.span := by
  unfold commandFault at reported
  split at reported
  · exact .inl (List.mem_singleton.1 reported)
  · rename_i rule found
    split at reported
    · obtain ⟨first, seen, rfl⟩ := List.mem_map.1 reported
      refine .inr (.inr ⟨first, ?_, rfl⟩)
      unfold repeated? at seen
      split at seen
      · exact List.mem_of_find?_eq_some (Option.mem_toList.1 seen)
      · cases seen
    · exact .inr (.inl (List.mem_singleton.1 reported))

theorem mem_repetition {rule : OptionRule} {earlier : List OptionUse} {option : OptionUse}
    (reported : diagnostic ∈ level.repetition rule earlier option) :
    ∃ first ∈ earlier, diagnostic = .duplicateOption rule.name option.span first.span := by
  unfold repetition at reported
  split at reported
  · rename_i first _ seen
    exact ⟨first, List.mem_of_find?_eq_some seen, List.mem_singleton.1 reported⟩
  · cases reported

theorem mem_valueFault {rule : OptionRule} {option : OptionUse}
    (reported : diagnostic ∈ valueFault rule option) :
    diagnostic = .missingOptionValue rule.name option.span ∨
      ∃ value, option.value? = some value ∧
        diagnostic = .unexpectedOptionValue rule.name value.span := by
  unfold valueFault at reported
  split at reported
  · exact .inl (List.mem_singleton.1 reported)
  · rename_i value _ given
    exact .inr ⟨value, given, List.mem_singleton.1 reported⟩
  · cases reported

/-- The totals are about commands that are lacking and some that are in excess. -/
theorem exists_excess (level : Level) (scope : Span) (commands : List CommandUse) :
    ∃ excess : List CommandUse, excess.Sublist (level.admitted [] commands) ∧
      level.totals scope commands =
        (level.lacking commands).map (fun rule => .missingCommand (some rule.name) scope) ++
          excess.map (fun command => .unexpectedCommand (some command.name) command.span) ++
          if (level.admitted [] commands).length < level.quantifier.least &&
              (level.lacking commands).isEmpty then
            [.missingCommand none scope]
          else
            [] := by
  refine ⟨_, ?_, rfl⟩
  split
  · exact List.nil_sublist _
  · exact List.drop_sublist ..

theorem mem_totals (reported : diagnostic ∈ level.totals scope commands) :
    (∃ name?, diagnostic = .missingCommand name? scope) ∨
      ∃ command ∈ level.admitted [] commands,
        diagnostic = .unexpectedCommand (some command.name) command.span := by
  obtain ⟨excess, inside, same⟩ := level.exists_excess scope commands
  rw [same, List.mem_append, List.mem_append] at reported
  rcases reported with (lacking | surplus) | none
  · obtain ⟨rule, -, rfl⟩ := List.mem_map.1 lacking
    exact .inl ⟨_, rfl⟩
  · obtain ⟨command, member, rfl⟩ := List.mem_map.1 surplus
    exact .inr ⟨command, inside.subset member, rfl⟩
  · split at none
    · exact .inl ⟨_, List.mem_singleton.1 none⟩
    · cases none

theorem mem_checkCommand {earlier : List CommandUse} {command : CommandUse}
    (reported : diagnostic ∈ level.checkCommand earlier command) :
    diagnostic ∈ level.commandFault earlier command.name command.span ∨
      ∃ rule, level.permitted? command.name = some rule ∧
        diagnostic ∈ rule.level.violations command.span command.commands command.options := by
  rw [checkCommand_eq, List.mem_append] at reported
  refine reported.imp_right fun inside => ?_
  cases permit : level.permitted? command.name with
  | none => rw [permit] at inside; cases inside
  | some rule => exact ⟨rule, rfl, by rwa [permit] at inside⟩

theorem anchored_of_commandFault {front back : List CommandUse} {command : CommandUse}
    (split : commands = front ++ command :: back)
    (reported : diagnostic ∈ level.commandFault front command.name command.span) :
    diagnostic.Anchored scope commands options := by
  have member : command ∈ commands := by simp [split]
  rcases mem_commandFault reported with rfl | rfl | ⟨first, earlier, rfl⟩
  · exact .unknownCommand member
  · exact .unexpectedCommand member
  · exact .duplicateCommand split earlier

theorem anchored_of_totals (reported : diagnostic ∈ level.totals scope commands) :
    diagnostic.Anchored scope commands options := by
  rcases mem_totals reported with ⟨name?, rfl⟩ | ⟨command, member, rfl⟩
  · exact .missingCommand name?
  · exact .unexpectedCommand ((level.admitted_sublist [] commands).subset member)

theorem anchored_of_checkOptions (reported : diagnostic ∈ level.checkOptions scope options) :
    diagnostic.Anchored scope commands options := by
  rw [checkOptions, List.mem_append] at reported
  rcases reported with fault | lacking
  · obtain ⟨front, option, back, split, found⟩ := mem_optionFaults fault
    have member : option ∈ options := by simp [split]
    rcases found with ⟨-, rfl⟩ | ⟨rule, -, repeated | value⟩
    · exact .unknownOption member
    · obtain ⟨first, earlier, rfl⟩ := mem_repetition repeated
      exact .duplicateOption rule.name split earlier
    · rcases mem_valueFault value with rfl | ⟨value, given, rfl⟩
      · exact .missingOptionValue rule.name member
      · exact .unexpectedOptionValue rule.name member given
  · obtain ⟨rule, -, rfl⟩ := List.mem_map.1 lacking
    exact .missingOption rule.name

/-! ## All levels below -/

theorem anchored_below_of_violation (owner : CommandUse) :
    ∀ (level : Level) (scope : Span) (diagnostic : Diagnostic),
      diagnostic ∈ level.violations scope owner.commands owner.options →
      diagnostic.Anchored scope owner.commands owner.options ∨
        ∃ command ∈ owner.commands, ∃ below, .command below ∈ (Node.command command).walk ∧
          diagnostic.Anchored below.span below.commands below.options := by
  induction owner using CommandUse.induction with
  | step name nameSpan commands options ih =>
      intro level scope diagnostic reported
      rw [violations, List.mem_append, List.mem_append] at reported
      rcases reported with (each | totals) | given
      · obtain ⟨front, command, back, split, found⟩ := mem_checkEach each
        change commands = front ++ command :: back at split
        have member : command ∈ commands := by simp [split]
        rw [List.nil_append] at found
        rcases mem_checkCommand found with fault | ⟨rule, -, inside⟩
        · exact .inl (anchored_of_commandFault split fault)
        · refine .inr ⟨command, member, ?_⟩
          rcases ih command member rule.level command.span diagnostic inside with
            here | ⟨next, further, below, visited, found⟩
          · exact ⟨command, by rw [Node.walk_eq]; exact List.mem_cons_self, here⟩
          · exact ⟨below, Node.mem_walk_of_below further visited, found⟩
      · exact .inl (anchored_of_totals totals)
      · exact .inl (anchored_of_checkOptions given)

/-- A diagnostic is anchored at the level that was checked, or at a command below it. -/
theorem anchored_of_violation (reported : diagnostic ∈ level.violations scope commands options) :
    diagnostic.Anchored scope commands options ∨
      ∃ command ∈ commands, ∃ below, .command below ∈ (Node.command command).walk ∧
        diagnostic.Anchored below.span below.commands below.options :=
  anchored_below_of_violation ⟨"", .point 0, commands, options⟩ level scope diagnostic reported

end Level

/-! ## Located trees -/

theorem Span.contains_trans {outer middle inner : Span} (first : outer.contains middle = true)
    (second : middle.contains inner = true) : outer.contains inner = true := by
  rw [contains_iff] at *
  omega

theorem OptionUse.contains_value {option : OptionUse} {value : Value}
    (given : option.value? = some value) : option.span.contains value.span = true := by
  rw [OptionUse.span, given]
  exact Span.cover_contains_right ..

theorem Node.contains_of_mem_walk {source : String} {node visited : Node}
    (located : node.Located source) (member : visited ∈ node.walk) :
    node.span.contains visited.span = true := by
  have both : visited.Located source ∧ node.span.contains visited.span = true := by
    refine walk_induction (motive := fun inner =>
      inner.Located source ∧ node.span.contains inner.span = true)
      ⟨located, Span.contains_self _⟩ ?_ visited member
    intro parent ⟨placed, inside⟩ child below
    exact ⟨placed.child child below, Span.contains_trans inside (placed.nested child below)⟩
  exact both.2

/-- An owner marks a part of the source and starts before its parts, which are located. -/
structure PartsLocated (source : String) (scope : Span) (commands : List CommandUse)
    (options : List OptionUse) : Prop where
  owner : scope.Marks source
  items : ItemsLocated source (Item.ofParts commands options)
  behind : ∀ node ∈ Node.parts commands options, scope.position < node.span.position

namespace PartsLocated

variable {source : String} {scope : Span} {commands : List CommandUse}
  {options : List OptionUse} {command : CommandUse} {option : OptionUse}

/-- A start at a place before all items comes before all parts. -/
theorem behind_of_items {first : Span} (marks : first.Marks source)
    (order : ∀ item ∈ Item.ofParts commands options, first.stop ≤ item.span.position) :
    ∀ node ∈ Node.parts commands options, first.position < node.span.position := by
  intro node member
  apply Nat.lt_of_lt_of_le marks.position_lt_stop
  apply Node.le_position_of_items member
  intro item own
  apply order
  rw [← Node.items_parts]
  exact List.mem_flatMap.2 ⟨node, member, own⟩

theorem of_command (located : ItemsLocated source command.items) :
    PartsLocated source command.span command.commands command.options := by
  refine ⟨CommandUse.marks_of_located located, located.of_command, ?_⟩
  rw [CommandUse.position_eq_of_located located]
  rw [CommandUse.items_eq] at located
  exact behind_of_items (located.each _ List.mem_cons_self)
    (List.pairwise_cons.1 located.ordered).1

theorem of_tree {tree : Tree} (located : tree.Located source) :
    PartsLocated source tree.span tree.commands tree.options := by
  have root : (Node.root tree).Located source := located
  refine ⟨root.marks, located.items, fun node member => ?_⟩
  exact Nat.lt_of_le_of_lt (Nat.zero_le _)
    (behind_of_items located.program located.order node member)

variable (parts : PartsLocated source scope commands options)
include parts

theorem command_items (member : command ∈ commands) : ItemsLocated source command.items :=
  parts.items.command_of_parts member

theorem command_marks (member : command ∈ commands) : command.span.Marks source :=
  CommandUse.marks_of_located (parts.command_items member)

theorem option_located (member : option ∈ options) : option.Located source :=
  parts.items.option_of_parts member

theorem command_behind (member : command ∈ commands) :
    scope.position < command.span.position :=
  parts.behind (.command command) (List.mem_append_right _ (List.mem_map_of_mem member))

theorem option_behind (member : option ∈ options) : scope.position < option.span.position :=
  parts.behind (.option option) (List.mem_append_left _ (List.mem_map_of_mem member))

theorem options_ordered :
    options.Pairwise fun option next => option.span.stop ≤ next.span.position := by
  have ordered := (List.pairwise_append.1 (Node.parts_ordered parts.items)).1
  exact (List.pairwise_map.1 ordered).imp fun order => order.2

theorem commands_ordered :
    commands.Pairwise fun command next => command.span.stop ≤ next.span.position := by
  have ordered := (List.pairwise_append.1 (Node.parts_ordered parts.items)).2.1
  exact (List.pairwise_map.1 ordered).imp fun order => order.2

theorem option_before_command (given : option ∈ options) (member : command ∈ commands) :
    option.span.stop ≤ command.span.position :=
  ((List.pairwise_append.1 (Node.parts_ordered parts.items)).2.2 (.option option)
    (List.mem_map_of_mem given) (.command command) (List.mem_map_of_mem member)).2

end PartsLocated

/-! ## Checks of located trees -/

/-- A diagnostic marks a part of the source, and so does the first occurrence of what it
says is repeated, which ends before it. -/
structure Diagnostic.Placed (source : String) (diagnostic : Diagnostic) : Prop where
  marks : diagnostic.span.Marks source
  repeats : diagnostic.related?.isSome = true ↔
    diagnostic.violation = .duplicateCommand ∨ diagnostic.violation = .duplicateOption
  first : ∀ first ∈ diagnostic.related?,
    first.Marks source ∧ first.stop ≤ diagnostic.span.position

/-- Whether the violation is put at the owner, as there is nothing else to put it at. -/
def Violation.lacks : Violation → Bool
  | .missingCommand | .missingOption => true
  | _ => false

section Located

variable {source : String} {scope : Span} {commands : List CommandUse} {options : List OptionUse}

namespace Diagnostic.Anchored

variable {diagnostic : Diagnostic} (anchored : diagnostic.Anchored scope commands options)
include anchored

theorem repeats : diagnostic.related?.isSome = true ↔
    diagnostic.violation = .duplicateCommand ∨ diagnostic.violation = .duplicateOption := by
  cases anchored <;>
    simp [Diagnostic.unknownCommand, Diagnostic.unexpectedCommand, Diagnostic.duplicateCommand,
      Diagnostic.missingCommand, Diagnostic.unknownOption, Diagnostic.duplicateOption,
      Diagnostic.missingOptionValue, Diagnostic.unexpectedOptionValue, Diagnostic.missingOption,
      Violation.about]

theorem marks (parts : PartsLocated source scope commands options) :
    diagnostic.span.Marks source := by
  cases anchored with
  | unknownCommand member => exact parts.command_marks member
  | unexpectedCommand member => exact parts.command_marks member
  | duplicateCommand split earlier => exact parts.command_marks (by simp [split])
  | missingCommand name? => exact parts.owner
  | unknownOption member => exact (parts.option_located member).marks
  | duplicateOption name split earlier => exact (parts.option_located (by simp [split])).marks
  | missingOptionValue name member => exact (parts.option_located member).marks
  | unexpectedOptionValue name member given => exact (parts.option_located member).value _ given
  | missingOption name => exact parts.owner

theorem first_marks_before (parts : PartsLocated source scope commands options) :
    ∀ first ∈ diagnostic.related?,
      first.Marks source ∧ first.stop ≤ diagnostic.span.position := by
  intro place related
  cases anchored with
  | @duplicateCommand front back command first split earlier =>
      have ordered := parts.commands_ordered
      rw [split] at ordered
      obtain rfl : first.span = place := Option.some.inj related
      exact ⟨parts.command_marks (by simp [split, earlier]),
        (List.pairwise_append.1 ordered).2.2 first earlier command List.mem_cons_self⟩
  | @duplicateOption front back option first name split earlier =>
      have ordered := parts.options_ordered
      rw [split] at ordered
      obtain rfl : first.span = place := Option.some.inj related
      exact ⟨(parts.option_located (by simp [split, earlier])).marks,
        (List.pairwise_append.1 ordered).2.2 first earlier option List.mem_cons_self⟩
  | _ => cases related

theorem placed (parts : PartsLocated source scope commands options) : diagnostic.Placed source :=
  ⟨anchored.marks parts, anchored.repeats, anchored.first_marks_before parts⟩

theorem inside {outer : Span} (owner : outer.contains scope = true)
    (below : ∀ command ∈ commands, outer.contains command.span = true)
    (given : ∀ option ∈ options, outer.contains option.span = true) :
    outer.contains diagnostic.span = true := by
  cases anchored with
  | unknownCommand member => exact below _ member
  | unexpectedCommand member => exact below _ member
  | duplicateCommand split earlier => exact below _ (by simp [split])
  | missingCommand name? => exact owner
  | unknownOption member => exact given _ member
  | duplicateOption name split earlier => exact given _ (by simp [split])
  | missingOptionValue name member => exact given _ member
  | unexpectedOptionValue name member value =>
      exact Span.contains_trans (given _ member) (OptionUse.contains_value value)
  | missingOption name => exact owner

theorem lacks_or_behind (parts : PartsLocated source scope commands options) :
    diagnostic.violation.lacks = true ∨ scope.position < diagnostic.span.position := by
  cases anchored with
  | unknownCommand member => exact .inr (parts.command_behind member)
  | unexpectedCommand member => exact .inr (parts.command_behind member)
  | duplicateCommand split earlier => exact .inr (parts.command_behind (by simp [split]))
  | missingCommand name? => exact .inl rfl
  | unknownOption member => exact .inr (parts.option_behind member)
  | duplicateOption name split earlier => exact .inr (parts.option_behind (by simp [split]))
  | missingOptionValue name member => exact .inr (parts.option_behind member)
  | unexpectedOptionValue name member given =>
      have within := (Span.contains_iff ..).1 (OptionUse.contains_value given)
      exact .inr (Nat.lt_of_lt_of_le (parts.option_behind member) within.1)
  | missingOption name => exact .inl rfl

end Diagnostic.Anchored

/-- What is anchored at a command lies inside it. -/
theorem Diagnostic.Anchored.inside_command {command : CommandUse} {diagnostic : Diagnostic}
    (anchored : diagnostic.Anchored command.span command.commands command.options) :
    command.span.contains diagnostic.span = true := by
  have parts := (CommandUse.contains_span_iff command.span command).1 (Span.contains_self _)
  exact anchored.inside (Span.contains_self _) parts.2.1 parts.2.2

namespace Level

variable {level : Level} {diagnostic : Diagnostic}

theorem placed_of_violation (parts : PartsLocated source scope commands options)
    (reported : diagnostic ∈ level.violations scope commands options) :
    diagnostic.Placed source := by
  rcases anchored_of_violation reported with here | ⟨command, member, below, visited, there⟩
  · exact here.placed parts
  · have placed : (Node.command command).Located source := parts.command_items member
    exact there.placed (.of_command (placed.of_mem_walk visited))

theorem contains_of_violation {command : CommandUse} (located : ItemsLocated source command.items)
    (reported : diagnostic ∈ level.violations command.span command.commands command.options) :
    command.span.contains diagnostic.span = true := by
  rcases anchored_of_violation reported with here | ⟨next, member, below, visited, there⟩
  · exact here.inside_command
  · have parts := (CommandUse.contains_span_iff command.span command).1 (Span.contains_self _)
    have placed : (Node.command next).Located source := located.of_command.command_of_parts member
    exact Span.contains_trans (parts.2.1 next member)
      (Span.contains_trans (Node.contains_of_mem_walk placed visited) there.inside_command)

/-- Behind the start of the owner lies all that is not a lack. -/
theorem lacks_or_behind_of_violation (parts : PartsLocated source scope commands options)
    (reported : diagnostic ∈ level.violations scope commands options) :
    diagnostic.violation.lacks = true ∨ scope.position < diagnostic.span.position := by
  rcases anchored_of_violation reported with here | ⟨command, member, below, visited, there⟩
  · exact here.lacks_or_behind parts
  · have placed : (Node.command command).Located source := parts.command_items member
    have within := Span.contains_trans (Node.contains_of_mem_walk placed visited)
      there.inside_command
    exact .inr (Nat.lt_of_lt_of_le (parts.command_behind member)
      ((Span.contains_iff ..).1 within).1)

theorem span_of_commandFault {earlier : List CommandUse} {name : String} {span : Span}
    (reported : diagnostic ∈ level.commandFault earlier name span) : diagnostic.span = span := by
  rcases mem_commandFault reported with rfl | rfl | ⟨first, -, rfl⟩ <;> rfl

/-- All that is found at a command and below it marks a part of the source inside it. -/
theorem marks_inside_of_checkCommand {earlier : List CommandUse} {command : CommandUse}
    (located : ItemsLocated source command.items)
    (reported : diagnostic ∈ level.checkCommand earlier command) :
    diagnostic.span.Marks source ∧ command.span.contains diagnostic.span = true := by
  rcases mem_checkCommand reported with fault | ⟨rule, -, inside⟩
  · rw [span_of_commandFault fault]
    exact ⟨CommandUse.marks_of_located located, Span.contains_self _⟩
  · exact ⟨(placed_of_violation (.of_command located) inside).marks,
      contains_of_violation located inside⟩

end Level

end Located

end CommandLine
