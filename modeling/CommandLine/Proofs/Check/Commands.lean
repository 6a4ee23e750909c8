import CommandLine.Proofs.Check.Repetition
import CommandLine.Proofs.Rule.Names

/-!
# Checked commands

The commands of one owner pass when each has a rule that lets it occur and no
rule for a single occurrence meets its name twice.  A check of the level itself
is silent exactly on such commands; then none is left out of the total, and the
totals are silent exactly when the numbers are right.  Both together are
conformity: `passing_totals_iff_conform`.
-/

set_option autoImplicit false

namespace CommandLine

namespace Quantifier

theorem admits_iff (quantifier : Quantifier) (count : Nat) :
    quantifier.admits count = true ↔
      quantifier.least ≤ count ∧ ∀ most, quantifier.most? = some most → count ≤ most := by
  cases limit : quantifier.most? <;> simp [admits, limit]

/-- Occurrences are refused by number only under a limit of none or of one. -/
theorem admits_pos_iff (quantifier : Quantifier) {count : Nat} (positive : 0 < count) :
    quantifier.admits count = true ↔
      quantifier ≠ .zero ∧ (quantifier.most? = some 1 → count ≤ 1) := by
  rw [admits_iff]
  cases quantifier <;> simp [least, most?] <;> omega

end Quantifier

namespace Level

variable {level : Level}

theorem permitted?_eq_some_iff (named : level.WellNamed) (name : String) (rule : CommandRule) :
    level.permitted? name = some rule ↔
      rule ∈ level.commands ∧ rule.name = name ∧ level.quantifier ≠ .zero ∧
        rule.quantifier ≠ .zero := by
  rw [permitted?, Option.filter_eq_some_iff, command?_eq_some_iff named]
  simp [permits, and_assoc]

theorem eq_of_names (named : level.WellNamed) {rule other : CommandRule}
    (declared : rule ∈ level.commands) (inside : other ∈ level.commands)
    {command : CommandUse} (bears : rule.names command = true)
    (too : other.names command = true) : rule = other :=
  List.inj_on_of_nodup_map named.commandNames declared inside
    ((beq_iff_eq.1 bears).symm.trans (beq_iff_eq.1 too))

/-- A command that may occur has no other rule than the one that lets it. -/
theorem eq_of_permitted? (named : level.WellNamed) {command : CommandUse}
    {rule other : CommandRule} (permit : level.permitted? command.name = some rule)
    (declared : other ∈ level.commands) (bears : other.names command = true) : rule = other := by
  obtain ⟨inside, same, -⟩ := (permitted?_eq_some_iff named ..).1 permit
  exact eq_of_names named inside declared (beq_iff_eq.2 same.symm) bears

theorem commandFault_eq_nil_iff (earlier : List CommandUse) (name : String) (span : Span) :
    level.commandFault earlier name span = [] ↔
      ∃ rule, level.permitted? name = some rule ∧ repeated? rule earlier = none := by
  unfold commandFault permitted?
  cases level.command? name with
  | none => simp
  | some rule =>
      cases permit : level.permits rule with
      | false => simp [Option.filter, permit]
      | true => cases again : repeated? rule earlier <;> simp [Option.filter, permit, again]

/-- The commands left may occur, each as often as its rule lets it. -/
structure CommandsPass (level : Level) (earlier commands : List CommandUse) : Prop where
  permitted : ∀ command ∈ commands, ∃ rule, level.permitted? command.name = some rule
  once : ∀ rule ∈ level.commands, rule.quantifier.most? = some 1 →
    Once rule.names earlier commands

theorem commandsPass_nil (earlier : List CommandUse) : level.CommandsPass earlier [] :=
  ⟨by simp, fun _ _ _ => once_nil _ earlier⟩

theorem commandsPass_cons_iff (named : level.WellNamed) (earlier rest : List CommandUse)
    (command : CommandUse) :
    level.CommandsPass earlier (command :: rest) ↔
      (∃ rule, level.permitted? command.name = some rule ∧ repeated? rule earlier = none) ∧
        level.CommandsPass (earlier ++ [command]) rest := by
  constructor
  · intro pass
    obtain ⟨rule, permit⟩ := pass.permitted command (by simp)
    obtain ⟨declared, same, -⟩ := (permitted?_eq_some_iff named ..).1 permit
    have bears : rule.names command = true := beq_iff_eq.2 same.symm
    refine ⟨⟨rule, permit, ?_⟩, fun other member => pass.permitted other (by simp [member]), ?_⟩
    · rw [repeated?_eq_none_iff]
      intro single
      exact ((once_cons_iff ..).1 (pass.once rule declared single)).1 bears
    · intro other member single
      exact ((once_cons_iff ..).1 (pass.once other member single)).2
  · intro ⟨⟨rule, permit, unrepeated⟩, pass⟩
    constructor
    · intro other member
      rcases List.mem_cons.1 member with rfl | later
      · exact ⟨rule, permit⟩
      · exact pass.permitted other later
    · intro other member single
      refine (once_cons_iff ..).2 ⟨fun bears => ?_, pass.once other member single⟩
      obtain rfl := eq_of_permitted? named permit member bears
      exact (repeated?_eq_none_iff ..).1 unrepeated single

theorem checkCommand_eq_nil_iff (earlier : List CommandUse) (command : CommandUse) :
    level.checkCommand earlier command = [] ↔
      ∃ rule, level.permitted? command.name = some rule ∧ repeated? rule earlier = none ∧
        rule.level.violations command.span command.commands command.options = [] := by
  rw [checkCommand_eq, List.append_eq_nil_iff, commandFault_eq_nil_iff]
  cases level.permitted? command.name <;> simp

theorem checkEach_eq_nil_iff (named : level.WellNamed) (earlier commands : List CommandUse) :
    level.checkEach earlier commands = [] ↔
      level.CommandsPass earlier commands ∧
        ∀ command ∈ commands, ∀ rule, level.permitted? command.name = some rule →
          rule.level.violations command.span command.commands command.options = [] := by
  induction commands generalizing earlier with
  | nil => simpa [checkEach] using commandsPass_nil earlier
  | cons command rest ih =>
      rw [checkEach, List.append_eq_nil_iff, checkCommand_eq_nil_iff, ih,
        commandsPass_cons_iff named, List.forall_mem_cons]
      constructor
      · intro ⟨⟨rule, permit, unrepeated, silent⟩, pass, below⟩
        refine ⟨⟨⟨rule, permit, unrepeated⟩, pass⟩, fun other found => ?_, below⟩
        obtain rfl : rule = other := by simpa [permit] using found
        exact silent
      · intro ⟨⟨⟨rule, permit, unrepeated⟩, pass⟩, silent, below⟩
        exact ⟨⟨rule, permit, unrepeated, silent rule permit⟩, pass, below⟩

theorem admitted_eq_self (named : level.WellNamed) {earlier commands : List CommandUse}
    (pass : level.CommandsPass earlier commands) :
    level.admitted earlier commands = commands := by
  induction commands generalizing earlier with
  | nil => rfl
  | cons command rest ih =>
      obtain ⟨⟨rule, permit, unrepeated⟩, later⟩ := (commandsPass_cons_iff named ..).1 pass
      simp [admitted, permit, unrepeated, ih later]

theorem lacking_eq_nil_iff (commands : List CommandUse)
    (permitted : ∀ command ∈ commands, ∃ rule, level.permitted? command.name = some rule) :
    level.lacking commands = [] ↔
      ∀ rule ∈ level.commands, rule.quantifier.demands = true →
        0 < commands.countP rule.names := by
  have found : ∀ rule : CommandRule, (commands.any fun command =>
      command.name == rule.name && (level.permitted? command.name).isSome) = true ↔
        0 < commands.countP rule.names := by
    intro rule
    rw [List.any_eq_true, List.countP_pos_iff]
    refine exists_congr fun command => and_congr_right fun member => ?_
    obtain ⟨other, permit⟩ := permitted command member
    simp [CommandRule.names, permit]
  simp only [lacking, demanded, List.filter_eq_nil_iff, List.mem_filter, and_imp,
    Bool.not_eq_true', Bool.not_eq_false, found]

theorem totals_eq_nil_iff (scope : Span) (commands : List CommandUse) :
    level.totals scope commands = [] ↔
      level.lacking commands = [] ∧
        level.quantifier.admits (level.admitted [] commands).length = true := by
  rw [Quantifier.admits_iff]
  unfold totals
  cases lacking : level.lacking commands with
  | cons rule rest => simp
  | nil =>
      cases limit : level.quantifier.most? <;> simp [List.drop_eq_nil_iff, and_comm]

/-- Each rule admits as many commands of its name as pass, if it gets those it demands. -/
theorem CommandsPass.admits (named : level.WellNamed) {commands : List CommandUse}
    (pass : level.CommandsPass [] commands) {rule : CommandRule}
    (declared : rule ∈ level.commands)
    (present : rule.quantifier.demands = true → 0 < commands.countP rule.names) :
    rule.quantifier.admits (commands.countP rule.names) = true := by
  rcases Nat.eq_zero_or_pos (commands.countP rule.names) with none | some
  · rw [none, Quantifier.admits_zero_iff, Bool.eq_false_iff]
    intro demanded
    have occurs := present demanded
    omega
  · rw [Quantifier.admits_pos_iff _ some]
    obtain ⟨command, member, bears⟩ := List.countP_pos_iff.1 some
    obtain ⟨other, permit⟩ := pass.permitted command member
    obtain ⟨-, -, -, occurs⟩ := (permitted?_eq_some_iff named ..).1 permit
    obtain rfl := eq_of_permitted? named permit declared bears
    exact ⟨occurs, fun single => (once_nil_left_iff ..).1 (pass.once other declared single)⟩

theorem CommandsConform.pass (named : level.WellNamed) {commands : List CommandUse}
    (conform : level.CommandsConform commands) : level.CommandsPass [] commands := by
  have occurring : ∀ rule ∈ level.commands, 0 < commands.countP rule.names →
      rule.quantifier ≠ .zero ∧ (rule.quantifier.most? = some 1 →
        commands.countP rule.names ≤ 1) := by
    intro rule declared positive
    exact (Quantifier.admits_pos_iff _ positive).1 (conform.each rule declared)
  constructor
  · intro command member
    obtain ⟨rule, declared, bears⟩ := conform.named command member
    have positive := List.countP_pos_iff.2 ⟨command, member, bears⟩
    have mayOccur := (Quantifier.admits_pos_iff _ (List.length_pos_of_mem member)).1 conform.total
    exact ⟨rule, (permitted?_eq_some_iff named ..).2
      ⟨declared, (beq_iff_eq.1 bears).symm, mayOccur.1, (occurring rule declared positive).1⟩⟩
  · intro rule declared single
    rw [once_nil_left_iff]
    rcases Nat.eq_zero_or_pos (commands.countP rule.names) with none | some
    · omega
    · exact (occurring rule declared some).2 single

theorem passing_totals_iff_conform (named : level.WellNamed) (scope : Span)
    (commands : List CommandUse) :
    level.CommandsPass [] commands ∧ level.totals scope commands = [] ↔
      level.CommandsConform commands := by
  constructor
  · intro ⟨pass, silent⟩
    rw [totals_eq_nil_iff, admitted_eq_self named pass,
      lacking_eq_nil_iff commands pass.permitted] at silent
    obtain ⟨present, total⟩ := silent
    refine ⟨?_, fun rule declared => pass.admits named declared (present rule declared), total⟩
    intro command member
    obtain ⟨rule, permit⟩ := pass.permitted command member
    obtain ⟨declared, same, -⟩ := (permitted?_eq_some_iff named ..).1 permit
    exact ⟨rule, declared, beq_iff_eq.2 same.symm⟩
  · intro conform
    have pass := conform.pass named
    refine ⟨pass, ?_⟩
    rw [totals_eq_nil_iff, admitted_eq_self named pass,
      lacking_eq_nil_iff commands pass.permitted]
    refine ⟨fun rule declared demanded => ?_, conform.total⟩
    by_contra absent
    have none : commands.countP rule.names = 0 := by omega
    have allowed := conform.each rule declared
    rw [none, Quantifier.admits_zero_iff, demanded] at allowed
    cases allowed

end Level

end CommandLine
