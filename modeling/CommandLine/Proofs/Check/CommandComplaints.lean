import CommandLine.Proofs.Check.Commands
import CommandLine.Proofs.Check.OptionComplaints
import Mathlib.Algebra.Ring.Nat

/-!
# Complaints about commands

A check goes through the commands of one owner and remembers what it has met and what it has
let pass.  What it finds on the level itself follows from numbers: of the commands of each
rule, and of those that count for the level, which are the first ones of each rule up to its
limit (`counted_perm`).  Violations below the commands aside, the check reports what is said
here of each rule and of the level (`checkEach_totals_perm_complaints`).
-/

set_option autoImplicit false

namespace CommandLine

def Quantifier.cap (quantifier : Quantifier) (count : Nat) : Nat :=
  match quantifier.most? with
  | none => count
  | some most => min count most

theorem Quantifier.cap_le (quantifier : Quantifier) (count : Nat) :
    quantifier.cap count ≤ count := by
  unfold cap
  split
  · exact Nat.le_refl _
  · exact Nat.min_le_left ..

namespace CommandRule

def occurrences (rule : CommandRule) (commands : List CommandUse) : List CommandUse :=
  commands.filter rule.names

/-- Each occurrence but the first repeats the first, if the command may occur once. -/
def repetitions (rule : CommandRule) : List CommandUse → List Diagnostic
  | [] => []
  | first :: others =>
      if rule.quantifier.most? = some 1 then
        others.map fun command => .duplicateCommand rule.name command.span first.span
      else []

def refusals (rule : CommandRule) (given : List CommandUse) : List Diagnostic :=
  if rule.quantifier = .zero then
    given.map fun command => .unexpectedCommand (some rule.name) command.span
  else []

def mistakes (rule : CommandRule) (given : List CommandUse) : List Diagnostic :=
  rule.refusals given ++ rule.repetitions given

def share (rule : CommandRule) (given : List CommandUse) : List CommandUse :=
  given.take (rule.quantifier.cap given.length)

theorem occurrences_concat_of_names {rule : CommandRule} {command : CommandUse}
    (bears : rule.names command = true) (commands : List CommandUse) :
    rule.occurrences (commands ++ [command]) = rule.occurrences commands ++ [command] := by
  simp [occurrences, bears]

theorem length_occurrences (rule : CommandRule) (commands : List CommandUse) :
    (rule.occurrences commands).length = commands.countP rule.names :=
  List.countP_eq_length_filter.symm

theorem length_share (rule : CommandRule) (given : List CommandUse) :
    (rule.share given).length = rule.quantifier.cap given.length := by
  rw [share, List.length_take]
  exact Nat.min_eq_left (rule.quantifier.cap_le _)

theorem share_concat (rule : CommandRule) (given : List CommandUse) (command : CommandUse) :
    rule.share (given ++ [command]) =
      rule.share given ++
        if rule.quantifier.most?.all (given.length < ·) then [command] else [] := by
  unfold share Quantifier.cap
  have whole : (given ++ [command]).take (given.length + 1) = given ++ [command] :=
    List.take_of_length_le (by simp)
  cases rule.quantifier.most? with
  | none => simp [whole]
  | some most =>
      by_cases below : given.length < most
      · have all : min (given.length + 1) most = given.length + 1 := by omega
        have fits : min given.length most = given.length := by omega
        simp only [List.length_append, List.length_singleton]
        rw [all, fits, whole, List.take_length]
        simp [below]
      · have full : min (given.length + 1) most = most := by omega
        have enough : most ≤ given.length := by omega
        simp [below, full, Nat.min_eq_right enough, List.take_append_of_le_length enough]

theorem length_repetitions {rule : CommandRule} (once : rule.quantifier.most? = some 1)
    (given : List CommandUse) : (rule.repetitions given).length = given.length - 1 := by
  cases given <;> simp [repetitions, once]

theorem repetitions_of_zero {rule : CommandRule} (zero : rule.quantifier = .zero)
    (given : List CommandUse) : rule.repetitions given = [] := by
  cases given <;> simp [repetitions, zero, Quantifier.most?]

end CommandRule

namespace Level

def rules (level : Level) (command : CommandUse) : Bool :=
  level.commands.any fun rule => rule.names command

def commandMistakes (level : Level) (commands : List CommandUse) : List Diagnostic :=
  (commands.filter fun command => !level.rules command).map
      (fun command => .unknownCommand command.name command.span) ++
    if level.quantifier = .zero then
      (commands.filter level.rules).map fun command =>
        .unexpectedCommand (some command.name) command.span
    else
      level.commands.flatMap fun rule => rule.mistakes (rule.occurrences commands)

/-- Whether a command counts for the level behind its earlier siblings: it may occur, and has
not yet occurred as often as its rule allows. -/
def counts (level : Level) (earlier : List CommandUse) (command : CommandUse) : Bool :=
  level.commands.any fun rule =>
    rule.names command && level.permits rule &&
      rule.quantifier.most?.all (earlier.countP rule.names < ·)

def counted (level : Level) (commands : List CommandUse) : List CommandUse :=
  (commands.zipIdx.filter fun (command, place) =>
    level.counts (commands.take place) command).map Prod.fst

def tally (level : Level) (commands : List CommandUse) : Nat :=
  (level.commands.map fun rule => rule.quantifier.cap (commands.countP rule.names)).sum

def excess (level : Level) (commands : List CommandUse) : List CommandUse :=
  match level.quantifier.most? with
  | none => []
  | some most => (level.counted commands).drop most

def absent (level : Level) (commands : List CommandUse) : List CommandRule :=
  level.demanded.filter fun rule => (rule.occurrences commands).isEmpty

def totalComplaints (level : Level) (scope : Span) (commands : List CommandUse) :
    List Diagnostic :=
  (level.absent commands).map (fun rule => .missingCommand (some rule.name) scope) ++
    (level.excess commands).map
      (fun command => .unexpectedCommand (some command.name) command.span) ++
    if level.quantifier.demands && (level.counted commands).isEmpty &&
        (level.absent commands).isEmpty then
      [.missingCommand none scope]
    else []

/-- All that is wrong with the commands of one owner, but for what lies below them. -/
def commandComplaints (level : Level) (scope : Span) (commands : List CommandUse) :
    List Diagnostic :=
  level.commandMistakes commands ++ level.totalComplaints scope commands

def violationsBelow (level : Level) (commands : List CommandUse) : List Diagnostic :=
  commands.flatMap fun command =>
    match level.permitted? command.name with
    | none => []
    | some rule => rule.level.violations command.span command.commands command.options

variable {level : Level}

/-! ## One more command -/

theorem checkEach_append (earlier front back : List CommandUse) :
    level.checkEach earlier (front ++ back) =
      level.checkEach earlier front ++ level.checkEach (earlier ++ front) back := by
  induction front generalizing earlier with
  | nil => simp [checkEach]
  | cons command rest ih => simp [checkEach, ih]

theorem admitted_append (earlier front back : List CommandUse) :
    level.admitted earlier (front ++ back) =
      level.admitted earlier front ++ level.admitted (earlier ++ front) back := by
  induction front generalizing earlier with
  | nil => simp [admitted]
  | cons command rest ih =>
      simp only [List.cons_append, admitted, ih, List.append_assoc, List.nil_append]
      split
      · rfl
      · split <;> simp

theorem counted_concat (earlier : List CommandUse) (command : CommandUse) :
    level.counted (earlier ++ [command]) =
      level.counted earlier ++ if level.counts earlier command then [command] else [] := by
  have kept : earlier.zipIdx.filter (fun (each, place) =>
        level.counts ((earlier ++ [command]).take place) each) =
      earlier.zipIdx.filter fun (each, place) => level.counts (earlier.take place) each := by
    refine List.filter_congr fun ⟨each, place⟩ member => ?_
    have inside : place < earlier.length := by simpa using (List.mem_zipIdx member).2.1
    simp only [List.take_append_of_le_length (Nat.le_of_lt inside)]
  rw [counted, List.zipIdx_append, List.filter_append, kept, List.map_append]
  refine congrArg (level.counted earlier ++ ·) ?_
  simp only [List.zipIdx_singleton, Nat.zero_add, List.filter_singleton, List.take_left]
  cases level.counts earlier command <;> rfl

theorem counts_iff (named : level.WellNamed) (earlier : List CommandUse)
    (command : CommandUse) :
    level.counts earlier command = true ↔
      ∃ rule, level.permitted? command.name = some rule ∧ repeated? rule earlier = none := by
  have free : ∀ rule : CommandRule, rule.quantifier ≠ .zero →
      (rule.quantifier.most?.all (earlier.countP rule.names < ·) = true ↔
        repeated? rule earlier = none) := by
    intro rule occurs
    rw [repeated?_eq_none_iff]
    cases limit : rule.quantifier <;> simp_all [Quantifier.most?, List.countP_eq_zero]
  unfold counts
  rw [List.any_eq_true]
  simp only [Bool.and_eq_true, permits, bne_iff_ne, permitted?_eq_some_iff named]
  constructor
  · rintro ⟨rule, declared, ⟨bears, holds, occurs⟩, below⟩
    exact ⟨rule, ⟨declared, (beq_iff_eq.1 bears).symm, holds, occurs⟩, (free rule occurs).1 below⟩
  · rintro ⟨rule, ⟨declared, same, holds, occurs⟩, unrepeated⟩
    exact ⟨rule, declared, ⟨beq_iff_eq.2 same.symm, holds, occurs⟩, (free rule occurs).2 unrepeated⟩

theorem admitted_singleton (named : level.WellNamed) (earlier : List CommandUse)
    (command : CommandUse) :
    level.admitted earlier [command] = if level.counts earlier command then [command] else [] := by
  have counts := counts_iff named earlier command
  simp only [admitted]
  cases permit : level.permitted? command.name with
  | none =>
      have refused : level.counts earlier command = false := by
        rw [Bool.eq_false_iff, Ne, counts]
        simp [permit]
      simp [refused]
  | some rule =>
      cases again : repeated? rule earlier with
      | none =>
          have passed := counts.2 ⟨rule, permit, again⟩
          simp [passed, again]
      | some first =>
          have refused : level.counts earlier command = false := by
            rw [Bool.eq_false_iff, Ne, counts]
            simp [permit, again]
          simp [refused, again]

theorem admitted_eq_counted (named : level.WellNamed) (commands : List CommandUse) :
    level.admitted [] commands = level.counted commands := by
  induction commands using List.reverseRecOn with
  | nil => rfl
  | append_singleton earlier command ih =>
      rw [admitted_append, counted_concat, ih, List.nil_append, admitted_singleton named]

/-! ## The commands that count -/

theorem nodup_commands (named : level.WellNamed) : level.commands.Nodup :=
  .of_map _ named.commandNames

theorem counts_of_names (named : level.WellNamed) (holds : level.quantifier ≠ .zero)
    {rule : CommandRule} (declared : rule ∈ level.commands) {command : CommandUse}
    (bears : rule.names command = true) (earlier : List CommandUse) :
    level.counts earlier command =
      rule.quantifier.most?.all (earlier.countP rule.names < ·) := by
  rw [Bool.eq_iff_iff, counts, List.any_eq_true]
  simp only [Bool.and_eq_true]
  constructor
  · rintro ⟨other, inside, ⟨too, -⟩, below⟩
    rwa [eq_of_names named declared inside bears too]
  · intro below
    refine ⟨rule, declared, ⟨bears, ?_⟩, below⟩
    have occurs : rule.quantifier ≠ .zero := by
      intro zero
      rw [zero] at below
      simp [Quantifier.most?] at below
    simp [permits, holds, occurs]

theorem counted_perm (named : level.WellNamed) (holds : level.quantifier ≠ .zero)
    (commands : List CommandUse) :
    (level.counted commands).Perm
      (level.commands.flatMap fun rule => rule.share (rule.occurrences commands)) := by
  induction commands using List.reverseRecOn with
  | nil =>
      have none : (level.commands.flatMap fun rule => rule.share (rule.occurrences [])) = [] :=
        List.flatMap_eq_nil_iff.2 fun rule _ => by
          simp [CommandRule.occurrences, CommandRule.share]
      rw [none]
      exact .nil
  | append_singleton earlier command ih =>
      rw [counted_concat]
      refine (ih.append_right _).trans (List.Perm.symm ?_)
      by_cases ruled : ∃ rule ∈ level.commands, rule.names command = true
      · obtain ⟨rule, declared, bears⟩ := ruled
        have grown : rule.share (rule.occurrences (earlier ++ [command])) =
            rule.share (rule.occurrences earlier) ++
              if level.counts earlier command then [command] else [] := by
          rw [CommandRule.occurrences_concat_of_names bears, CommandRule.share_concat,
            CommandRule.length_occurrences, counts_of_names named holds declared bears]
        exact flatMap_filter_concat_perm CommandRule.names CommandRule.share
          (nodup_commands named) declared
          (fun other inside too => eq_of_names named inside declared too bears) (.of_eq grown)
      · have unnamed : ∀ rule ∈ level.commands, rule.names command = false := by
          simpa using ruled
        have refused : level.counts earlier command = false := by
          rw [counts, List.any_eq_false]
          intro rule declared
          simp [unnamed rule declared]
        rw [refused, if_neg Bool.false_ne_true, List.append_nil]
        exact .of_eq
          (flatMap_filter_concat_of_refused CommandRule.names CommandRule.share earlier unnamed)

theorem length_counted (named : level.WellNamed) (holds : level.quantifier ≠ .zero)
    (commands : List CommandUse) :
    (level.counted commands).length = level.tally commands := by
  rw [(counted_perm named holds commands).length_eq, List.length_flatMap, tally]
  congr 1
  refine List.map_congr_left fun rule _ => ?_
  rw [CommandRule.length_share, CommandRule.length_occurrences]

theorem length_excess (named : level.WellNamed) (holds : level.quantifier ≠ .zero)
    (commands : List CommandUse) {most : Nat} (limit : level.quantifier.most? = some most) :
    (level.excess commands).length = level.tally commands - most := by
  simp only [excess, limit]
  rw [List.length_drop, length_counted named holds]

/-! ## The mistakes of each command -/

theorem repeated?_eq (rule : CommandRule) (earlier : List CommandUse) :
    repeated? rule earlier =
      if rule.quantifier.most? = some 1 then (rule.occurrences earlier).head? else none := by
  unfold repeated? CommandRule.occurrences
  rw [List.head?_filter]
  rfl

theorem mistakes_concat_of_command? (holds : level.quantifier ≠ .zero) {rule : CommandRule}
    {command : CommandUse} (found : level.command? command.name = some rule)
    (earlier : List CommandUse) :
    rule.mistakes (rule.occurrences (earlier ++ [command])) =
      rule.mistakes (rule.occurrences earlier) ++
        level.commandFault earlier command.name command.span := by
  obtain ⟨declared, same⟩ := mem_of_command? found
  rw [CommandRule.occurrences_concat_of_names (beq_iff_eq.2 same.symm)]
  simp only [commandFault, found, permits, repeated?_eq]
  by_cases zero : rule.quantifier = .zero
  · simp [CommandRule.mistakes, CommandRule.refusals, CommandRule.repetitions_of_zero zero, zero,
      same]
  · simp only [CommandRule.mistakes, CommandRule.refusals, if_neg zero, List.nil_append]
    cases given : rule.occurrences earlier with
    | nil => simp [CommandRule.repetitions, holds, zero]
    | cons first others =>
        by_cases once : rule.quantifier.most? = some 1
        · simp [CommandRule.repetitions, holds, zero, once, same]
        · simp [CommandRule.repetitions, holds, zero, once]

theorem rules_eq_isSome_command? (level : Level) (command : CommandUse) :
    level.rules command = (level.command? command.name).isSome := by
  rw [command?, List.isSome_find?, rules]
  exact congrArg level.commands.any (funext fun rule => Bool.beq_comm)

theorem commandMistakes_concat_of_unruled {command : CommandUse}
    (found : level.command? command.name = none) (earlier : List CommandUse) :
    (level.commandMistakes (earlier ++ [command])).Perm
      (level.commandMistakes earlier ++
        level.commandFault earlier command.name command.span) := by
  have unruled : level.rules command = false := by
    rw [rules_eq_isSome_command?, found]
    rfl
  have unnamed : ∀ rule ∈ level.commands, rule.names command = false := by
    simpa [rules] using unruled
  have kept : (level.commands.flatMap fun rule =>
      rule.mistakes (rule.occurrences (earlier ++ [command]))) =
      level.commands.flatMap fun rule => rule.mistakes (rule.occurrences earlier) :=
    flatMap_filter_concat_of_refused CommandRule.names CommandRule.mistakes earlier unnamed
  simp only [commandMistakes, commandFault, found, kept, List.filter_append, List.map_append,
    List.filter_singleton, unruled, Bool.not_false, cond_true, cond_false, List.append_nil,
    List.map_cons, List.map_nil, List.append_assoc]
  exact .append_left _ List.perm_append_comm

theorem commandMistakes_concat_of_ruled (named : level.WellNamed) {command : CommandUse}
    {rule : CommandRule} (found : level.command? command.name = some rule)
    (earlier : List CommandUse) :
    (level.commandMistakes (earlier ++ [command])).Perm
      (level.commandMistakes earlier ++
        level.commandFault earlier command.name command.span) := by
  obtain ⟨declared, same⟩ := mem_of_command? found
  have ruled : level.rules command = true := by
    rw [rules_eq_isSome_command?, found]
    rfl
  simp only [commandMistakes, List.filter_append, List.filter_singleton, ruled, Bool.not_true,
    cond_true, cond_false, List.append_nil, List.append_assoc]
  refine .append_left _ ?_
  by_cases zero : level.quantifier = .zero
  · simp [zero, commandFault, found, permits]
  · rw [if_neg zero, if_neg zero]
    exact flatMap_filter_concat_perm CommandRule.names CommandRule.mistakes
      (nodup_commands named) declared
      (fun other inside too => eq_of_names named inside declared too (beq_iff_eq.2 same.symm))
      (.of_eq (mistakes_concat_of_command? zero found earlier))

/-! ## All commands -/

theorem checkEach_perm (named : level.WellNamed) (commands : List CommandUse) :
    (level.checkEach [] commands).Perm
      (level.commandMistakes commands ++ level.violationsBelow commands) := by
  -- a command is compared with those before it, so the last one is the one to take off
  induction commands using List.reverseRecOn with
  | nil =>
      have none : level.commandMistakes [] = [] := by
        simp [commandMistakes, CommandRule.mistakes, CommandRule.refusals,
          CommandRule.repetitions, CommandRule.occurrences]
      rw [none]
      exact .nil
  | append_singleton earlier command ih =>
      have grown : (level.commandMistakes (earlier ++ [command])).Perm
          (level.commandMistakes earlier ++
            level.commandFault earlier command.name command.span) := by
        cases found : level.command? command.name with
        | none => exact commandMistakes_concat_of_unruled found earlier
        | some rule => exact commandMistakes_concat_of_ruled named found earlier
      have below : level.violationsBelow (earlier ++ [command]) =
          level.violationsBelow earlier ++ level.violationsBelow [command] :=
        List.flatMap_append
      have step : level.checkEach ([] ++ earlier) [command] =
          level.commandFault earlier command.name command.span ++
            level.violationsBelow [command] := by
        rw [checkEach, checkEach, checkCommand_eq, List.append_nil, violationsBelow,
          List.flatMap_singleton]
        rfl
      rw [checkEach_append, step, below]
      refine (ih.append_right _).trans (.trans ?_ (grown.symm.append_right _))
      simp only [List.append_assoc]
      exact .append_left _ (List.perm_append_comm_assoc ..)

theorem lacking_eq_absent (named : level.WellNamed)
    (holds : ∀ rule ∈ level.commands, rule.quantifier.demands = true → level.quantifier ≠ .zero)
    (commands : List CommandUse) : level.lacking commands = level.absent commands := by
  refine List.filter_congr fun rule demanded => ?_
  obtain ⟨declared, demands⟩ := List.mem_filter.1 demanded
  have occurs : rule.quantifier ≠ .zero := by
    intro zero
    rw [zero] at demands
    cases demands
  have permitted : ∀ command : CommandUse, rule.names command = true →
      (level.permitted? command.name).isSome = true := by
    intro command bears
    rw [(permitted?_eq_some_iff named command.name rule).2
      ⟨declared, (beq_iff_eq.1 bears).symm, holds rule declared demands, occurs⟩]
    rfl
  rw [Bool.eq_iff_iff]
  simp only [Bool.not_eq_true', List.any_eq_false, Bool.and_eq_true, not_and,
    List.isEmpty_iff, CommandRule.occurrences, List.filter_eq_nil_iff]
  constructor
  · intro clear command member bears
    exact clear command member bears (permitted command bears)
  · intro clear command member bears
    exact absurd bears (clear command member)

theorem lt_least_iff (quantifier : Quantifier) (counted : List CommandUse) :
    counted.length < quantifier.least ↔ (quantifier.demands && counted.isEmpty) = true := by
  cases quantifier <;> cases counted <;> simp [Quantifier.least, Quantifier.demands]

theorem totals_eq (named : level.WellNamed)
    (holds : ∀ rule ∈ level.commands, rule.quantifier.demands = true → level.quantifier ≠ .zero)
    (scope : Span) (commands : List CommandUse) :
    level.totals scope commands = level.totalComplaints scope commands := by
  unfold totals totalComplaints excess
  cases level.quantifier.most? with
  | none =>
      simp only [lacking_eq_absent named holds, admitted_eq_counted named, Bool.and_eq_true,
        decide_eq_true_eq, lt_least_iff]
  | some most =>
      simp only [lacking_eq_absent named holds, admitted_eq_counted named, Bool.and_eq_true,
        decide_eq_true_eq, lt_least_iff]

/-- The diagnostics of a check among commands are what their numbers call for, next to what
lies below them: of the rules with a limit of one each occurrence but the first is refused,
and of the commands that count those beyond the limit of the level. -/
theorem checkEach_totals_perm_complaints {grammar : Grammar} {level : Level}
    (declares : grammar.level.Declares level) (scope : Span) (commands : List CommandUse) :
    (level.checkEach [] commands ++ level.totals scope commands).Perm
        (level.commandComplaints scope commands ++ level.violationsBelow commands) ∧
      (∀ rule ∈ level.commands, rule.quantifier.most? = some 1 →
        (rule.repetitions (rule.occurrences commands)).length =
          commands.countP rule.names - 1) ∧
      (level.quantifier ≠ .zero →
        (level.counted commands).length = level.tally commands ∧
          ∀ most, level.quantifier.most? = some most →
            (level.excess commands).length = level.tally commands - most) := by
  have named := grammar.wellNamed_of_declares declares
  refine ⟨?_, ?_, ?_⟩
  · rw [totals_eq named fun rule => grammar.quantifier_ne_zero_of_demands declares,
      commandComplaints, List.append_assoc]
    refine ((checkEach_perm named commands).append_right _).trans ?_
    rw [List.append_assoc]
    exact .append_left _ List.perm_append_comm
  · intro rule _ once
    rw [CommandRule.length_repetitions once, CommandRule.length_occurrences]
  · intro holds
    exact ⟨length_counted named holds commands,
      fun most limit => length_excess named holds commands limit⟩

theorem checkEach_totals_perm_complaints_of_crowded_level :
    let old : CommandRule := ⟨"old", .zero, .zero, [], []⟩
    let init : CommandRule := ⟨"init", .zeroOrOne, .zero, [], []⟩
    let run : CommandRule := ⟨"run", .zeroOrMultiple, .zero, [], []⟩
    let stop : CommandRule := ⟨"stop", .one, .zero, [], []⟩
    let top : Level := ⟨.one, [old, init, run, stop], []⟩
    let plain (name : String) (span : Span) : CommandUse := ⟨name, span, [], []⟩
    let commands : List CommandUse :=
      [plain "init" ⟨2, 4⟩, plain "foo" ⟨7, 3⟩, plain "run" ⟨11, 3⟩, plain "old" ⟨15, 3⟩,
        plain "init" ⟨19, 4⟩, ⟨"run", ⟨24, 3⟩, [], [⟨"x", ⟨28, 2⟩, .short, none⟩]⟩]
    ∃ faultless : top.fault? = none, (Grammar.mk top faultless).level.Declares top ∧
      ((top.checkEach [] commands ++ top.totals ⟨0, 30⟩ commands).Perm
          [.unknownCommand "foo" ⟨7, 3⟩, .unexpectedCommand (some "old") ⟨15, 3⟩,
            .duplicateCommand "init" ⟨19, 4⟩ ⟨2, 4⟩, .missingCommand (some "stop") ⟨0, 30⟩,
            .unexpectedCommand (some "run") ⟨11, 3⟩, .unexpectedCommand (some "run") ⟨24, 6⟩,
            .unknownOption "x" ⟨28, 2⟩] ∧
        (∀ rule ∈ top.commands, rule.quantifier.most? = some 1 →
          (rule.repetitions (rule.occurrences commands)).length =
            commands.countP rule.names - 1) ∧
        (top.quantifier ≠ .zero →
          (top.counted commands).length = 3 ∧
            ∀ most, top.quantifier.most? = some most →
              (top.excess commands).length = 3 - most)) := by
  intro old init run stop top plain commands
  have faultless : top.fault? = none := by decide
  have declares : (Grammar.mk top faultless).level.Declares top := .here top
  exact ⟨faultless, declares, checkEach_totals_perm_complaints declares ⟨0, 30⟩ commands⟩

end Level

end CommandLine
