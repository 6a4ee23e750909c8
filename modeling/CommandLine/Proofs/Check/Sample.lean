import CommandLine.Proofs.Check.Validity
import CommandLine.Proofs.Rule.Sound
import Mathlib.Data.List.Perm.Subperm

/-!
# Sample trees

Every grammar has a tree that satisfies it.  A sample of rules gives each option once,
the commands that must occur, and one more where a level must hold some command; that
sound levels have room for these is what makes the sample conform.

The other way round, commands conform to a well-named level only if it has the room and
the rules that they need, so a level refused for its number of commands has none that
pass (`accepted_satisfiable_refused_unsatisfiable`).
-/

set_option autoImplicit false

namespace CommandLine

namespace Quantifier

variable {quantifier : Quantifier}

theorem ne_zero_of_demands (demanded : quantifier.demands = true) : quantifier ≠ .zero := by
  rintro rfl
  cases demanded

theorem admits_one_of_demands (demanded : quantifier.demands = true) :
    quantifier.admits 1 = true := by
  revert demanded
  cases quantifier <;> decide

/-- No quantifier asks for more than one occurrence. -/
theorem admits_of_pos {count : Nat} (positive : 0 < count)
    (room : ∀ most, quantifier.most? = some most → count ≤ most) :
    quantifier.admits count = true := by
  rw [admits_iff]
  refine ⟨?_, room⟩
  cases quantifier <;> simp [least] <;> omega

end Quantifier

/-! ## Samples -/

def OptionRule.sample (rule : OptionRule) : OptionUse :=
  ⟨rule.name, .point 0, .long,
    if rule.expectsValue then some ⟨⟨"value", false⟩, .point 0⟩ else none⟩

/-- The rules of as few commands as a level can hold. -/
def Level.needed (level : Level) : List CommandRule :=
  if level.demanded.isEmpty && level.quantifier.demands then
    (level.commands.find? fun rule => rule.quantifier != .zero).toList
  else
    level.demanded

theorem Level.needed_sublist (level : Level) : level.needed.Sublist level.commands := by
  unfold Level.needed
  split
  · cases found : level.commands.find? fun rule => rule.quantifier != .zero with
    | none => exact List.nil_sublist _
    | some rule => exact List.singleton_sublist.2 (List.mem_of_find?_eq_some found)
  · exact List.filter_sublist

def CommandRule.sample (rule : CommandRule) : CommandUse :=
  ⟨rule.name, .point 0, rule.level.needed.attach.map fun ⟨below, _member⟩ => below.sample,
    rule.options.map OptionRule.sample⟩
termination_by sizeOf rule
decreasing_by
  have smaller := List.sizeOf_lt_of_mem (rule.level.needed_sublist.subset _member)
  rcases rule with ⟨name, quantifier, subcommands, commands, options⟩
  simp only [CommandRule.level] at smaller
  simp
  omega

theorem CommandRule.sample_eq (rule : CommandRule) :
    rule.sample = ⟨rule.name, .point 0, rule.level.needed.map CommandRule.sample,
      rule.options.map OptionRule.sample⟩ := by
  rw [CommandRule.sample, List.map_subtype (g := CommandRule.sample) (fun _ _ => rfl),
    List.unattach_attach]

/-- A tree of the least commands that satisfy a grammar. -/
def Grammar.sample (grammar : Grammar) : Tree :=
  ⟨"", ⟨⟨"", true⟩, .point 0⟩, grammar.level.needed.map CommandRule.sample,
    grammar.level.options.map OptionRule.sample⟩

/-! ## Samples conform -/

namespace Level

variable {level : Level}

theorem matches_sample_iff (named : level.WellNamed) {rule other : OptionRule}
    (declared : rule ∈ level.options) (inside : other ∈ level.options) :
    rule.matches other.sample = true ↔ other = rule := by
  have own : ∀ rule : OptionRule, rule.matches rule.sample = true := by
    intro rule
    simp [OptionRule.matches, OptionRule.accepts, OptionRule.sample]
  constructor
  · intro accepted
    exact eq_of_accepts named inside declared (own other) accepted
  · rintro rfl
    exact own other

/-- An option for each rule is what a level can ask for at most. -/
theorem optionsConform_sample (named : level.WellNamed) :
    level.OptionsConform (level.options.map OptionRule.sample) := by
  constructor
  · rw [List.forall_mem_map]
    intro rule declared
    exact ⟨rule, declared, (matches_sample_iff named declared declared).2 rfl⟩
  · intro rule declared _
    exact ⟨rule.sample, List.mem_map_of_mem declared,
      (matches_sample_iff named declared declared).2 rfl⟩
  · intro rule declared _
    have counted : (level.options.map OptionRule.sample).countP rule.matches =
        level.options.count rule := by
      rw [List.countP_map, List.count]
      apply List.countP_congr
      intro other inside
      simpa using matches_sample_iff named declared inside
    rw [counted]
    exact List.nodup_iff_count_le_one.1 named.optionNames.of_map rule
  · simp only [List.forall_mem_map]
    intro rule declared other inside accepted
    obtain rfl := (matches_sample_iff named declared inside).1 accepted
    cases wanted : other.expectsValue <;> simp [OptionRule.sample, wanted]

/-- One command for each of some rules conforms if these are enough and not too many. -/
theorem commandsConform_of_names (named : level.WellNamed) (chosen : List CommandRule)
    {commands : List CommandUse}
    (names : commands.map CommandUse.name = chosen.map CommandRule.name)
    (distinct : (chosen.map CommandRule.name).Nodup)
    (occurring : ∀ rule ∈ chosen, rule ∈ level.commands ∧ rule.quantifier ≠ .zero)
    (complete : ∀ rule ∈ level.demanded, rule ∈ chosen)
    (total : level.quantifier.admits chosen.length = true) :
    level.CommandsConform commands := by
  have length : commands.length = chosen.length := by
    simpa using congrArg List.length names
  refine ⟨?_, ?_, by rwa [length]⟩
  · intro command member
    have listed : command.name ∈ chosen.map CommandRule.name :=
      names ▸ List.mem_map_of_mem member
    obtain ⟨rule, inside, same⟩ := List.mem_map.1 listed
    exact ⟨rule, (occurring rule inside).1, beq_iff_eq.2 same.symm⟩
  · intro rule declared
    have counted : commands.countP rule.names = (chosen.map CommandRule.name).count rule.name := by
      rw [← names, List.count, List.countP_map]
      rfl
    rw [counted]
    by_cases listed : rule.name ∈ chosen.map CommandRule.name
    · obtain ⟨other, inside, same⟩ := List.mem_map.1 listed
      obtain ⟨otherDeclared, occurs⟩ := occurring other inside
      obtain rfl := List.inj_on_of_nodup_map named.commandNames otherDeclared declared same
      rw [List.count_eq_one_of_mem distinct listed, Quantifier.admits_pos_iff _ Nat.one_pos]
      exact ⟨occurs, fun _ => Nat.le_refl 1⟩
    · rw [List.count_eq_zero_of_not_mem listed, Quantifier.admits_zero_iff, ← Bool.not_eq_true]
      intro demands
      have demanded : rule ∈ level.demanded := List.mem_filter.2 ⟨declared, demands⟩
      exact listed (List.mem_map_of_mem (complete rule demanded))

/-- A sound level has rules for as many commands as it needs, and room for them. -/
theorem Sound.needed (sound : level.Sound) :
    (∀ rule ∈ level.needed, rule.quantifier ≠ .zero) ∧
      (∀ rule ∈ level.demanded, rule ∈ level.needed) ∧
      level.quantifier.admits level.needed.length = true := by
  unfold Level.needed
  split
  · rename_i short
    simp only [Bool.and_eq_true, List.isEmpty_iff] at short
    obtain ⟨none, must⟩ := short
    obtain ⟨rule, declared, occurs⟩ := sound.fillable must
    have some : (level.commands.find? fun rule => rule.quantifier != .zero).isSome = true :=
      List.find?_isSome.2 ⟨rule, declared, bne_iff_ne.2 occurs⟩
    obtain ⟨first, found⟩ := Option.isSome_iff_exists.1 some
    rw [found, none]
    refine ⟨?_, by simp, Quantifier.admits_one_of_demands must⟩
    simpa using List.find?_some found
  · rename_i enough
    refine ⟨fun rule member => Quantifier.ne_zero_of_demands (List.mem_filter.1 member).2,
      fun _ => id, ?_⟩
    by_cases none : level.demanded = []
    · have content : level.quantifier.demands = false := by simpa [none] using enough
      rw [none]
      exact (Quantifier.admits_zero_iff _).2 content
    · apply Quantifier.admits_of_pos (List.length_pos_iff.2 none)
      rw [level.length_demanded]
      exact sound.room

/-- Samples on a sound level conform if those below them do. -/
theorem Sound.conforms_sample (sound : level.Sound)
    (below : ∀ rule ∈ level.commands, rule.quantifier ≠ .zero →
      rule.level.Conforms (rule.level.needed.map CommandRule.sample)
        (rule.level.options.map OptionRule.sample)) :
    level.Conforms (level.needed.map CommandRule.sample)
      (level.options.map OptionRule.sample) := by
  obtain ⟨occurring, complete, total⟩ := sound.needed
  have names : (level.needed.map CommandRule.sample).map CommandUse.name =
      level.needed.map CommandRule.name := by
    rw [List.map_map]
    exact List.map_congr_left fun rule _ => by rw [Function.comp_apply, CommandRule.sample_eq]
  refine .intro (commandsConform_of_names sound.named level.needed names ?_ ?_ complete total)
    (optionsConform_sample sound.named) ?_
  · exact (level.needed_sublist.map CommandRule.name).nodup sound.named.commandNames
  · exact fun rule member => ⟨level.needed_sublist.subset member, occurring rule member⟩
  · rw [List.forall_mem_map]
    intro other member rule declared bears
    have inside := level.needed_sublist.subset member
    rw [CommandRule.sample_eq] at bears ⊢
    obtain rfl : other = rule :=
      List.inj_on_of_nodup_map sound.named.commandNames inside declared (beq_iff_eq.1 bears)
    exact below other declared (occurring other member)

end Level

theorem CommandRule.conforms_sample (rule : CommandRule) :
    (∀ target, rule.level.Reaches target → target.Sound) →
      rule.level.Conforms (rule.level.needed.map CommandRule.sample)
        (rule.level.options.map OptionRule.sample) := by
  induction rule using CommandRule.induction with
  | step name quantifier subcommands commands options ih =>
      intro sound
      apply (sound _ (.here _)).conforms_sample
      intro rule declared occurs
      exact ih rule declared fun target further => sound target (.down declared occurs further)

theorem Grammar.check_sample (grammar : Grammar) : check grammar grammar.sample = [] := by
  rw [check_eq_nil_iff]
  apply (grammar.sound_of_reaches (.here _)).conforms_sample
  intro rule declared occurs
  exact rule.conforms_sample fun target further =>
    grammar.sound_of_reaches (.down declared occurs further)

/-! ## What conforming commands show of a level -/

namespace Level

variable {level : Level} {commands : List CommandUse}

theorem CommandsConform.occurs (conform : level.CommandsConform commands) {command : CommandUse}
    (member : command ∈ commands) {rule : CommandRule} (declared : rule ∈ level.commands)
    (bears : rule.names command = true) : rule.quantifier ≠ .zero := by
  have positive := List.countP_pos_iff.2 ⟨command, member, bears⟩
  exact ((Quantifier.admits_pos_iff _ positive).1 (conform.each rule declared)).1

theorem CommandsConform.present (conform : level.CommandsConform commands) {rule : CommandRule}
    (demanded : rule ∈ level.demanded) : ∃ command ∈ commands, rule.names command = true := by
  obtain ⟨declared, demands⟩ := List.mem_filter.1 demanded
  rw [← List.countP_pos_iff]
  have least := ((Quantifier.admits_iff ..).1 (conform.each rule declared)).1
  simp only [Quantifier.demands, decide_eq_true_eq] at demands
  omega

/-- Demanded commands are siblings of different names, so there are no more of them than
of all siblings. -/
theorem CommandsConform.room (named : level.WellNamed) (conform : level.CommandsConform commands) :
    ∀ most, level.quantifier.most? = some most →
      level.commands.countP (fun rule => rule.quantifier.demands) ≤ most := by
  have names : (level.demanded.map CommandRule.name).Nodup :=
    (List.filter_sublist.map CommandRule.name).nodup named.commandNames
  have present : level.demanded.map CommandRule.name ⊆ commands.map CommandUse.name := by
    intro name member
    obtain ⟨rule, demanded, rfl⟩ := List.mem_map.1 member
    obtain ⟨command, given, bears⟩ := conform.present demanded
    exact List.mem_map.2 ⟨command, given, beq_iff_eq.1 bears⟩
  have fewer : level.demanded.length ≤ commands.length := by
    simpa using (List.subperm_of_subset names present).length_le
  intro most limit
  rw [← level.length_demanded]
  exact Nat.le_trans fewer (((Quantifier.admits_iff ..).1 conform.total).2 most limit)

theorem CommandsConform.fillable (conform : level.CommandsConform commands)
    (must : level.quantifier.demands = true) :
    ∃ rule ∈ level.commands, rule.quantifier ≠ .zero := by
  have least := ((Quantifier.admits_iff ..).1 conform.total).1
  simp only [Quantifier.demands, decide_eq_true_eq] at must
  obtain ⟨command, member⟩ : ∃ command, command ∈ commands :=
    List.exists_mem_of_length_pos (by omega)
  obtain ⟨rule, declared, bears⟩ := conform.named command member
  exact ⟨rule, declared, conform.occurs member declared bears⟩

theorem commandsConform_of_violations_eq_nil (named : level.WellNamed) {scope : Span}
    {options : List OptionUse} (silent : level.violations scope commands options = []) :
    level.CommandsConform commands := by
  rw [violations, List.append_eq_nil_iff, List.append_eq_nil_iff,
    checkEach_eq_nil_iff named] at silent
  obtain ⟨⟨⟨pass, -⟩, totals⟩, -⟩ := silent
  exact (passing_totals_iff_conform named scope commands).1 ⟨pass, totals⟩

end Level

/-- Accepted rules have a tree that satisfies them.  On a level that is refused for its
quantifiers, no commands and options pass. -/
theorem accepted_satisfiable_refused_unsatisfiable :
    (∀ rules grammar, Grammar.ofLevel rules = .ok grammar → ∃ tree, check grammar tree = []) ∧
      ∀ (level : Level) (path : String) (owners : List String), level.nameFault? path = none →
        level.countFault? path ≠ none ∨ level.emptyFault? owners ≠ none →
        ∀ scope commands options, level.violations scope commands options ≠ [] := by
  constructor
  · intro rules grammar _
    exact ⟨grammar.sample, grammar.check_sample⟩
  · intro level path owners names fault scope commands options silent
    have named := (level.nameFault?_eq_none_iff_wellNamed path).1 names
    have conform := Level.commandsConform_of_violations_eq_nil named silent
    rcases fault with crowded | empty
    · exact crowded ((level.countFault?_eq_none_iff path).2 (conform.room named))
    · exact empty ((level.emptyFault?_eq_none_iff owners).2 conform.fillable)

theorem accepted_satisfiable_refused_unsatisfiable_of_two_demanded :
    let rules : Level := ⟨.oneOrMultiple, [⟨"run", .zeroOrMultiple, .zero, [], []⟩],
      [⟨"conf", none, true, true, false⟩]⟩
    let crowded : Level := ⟨.one, [⟨"run", .one, .zero, [], []⟩,
      ⟨"stop", .oneOrMultiple, .zero, [], []⟩], []⟩
    let empty : Level := ⟨.one, [⟨"run", .zero, .zero, [], []⟩], []⟩
    (∃ grammar tree, Grammar.ofLevel rules = .ok grammar ∧ check grammar tree = []) ∧
      (crowded.nameFault? "<root>" = none ∧ crowded.countFault? "<root>" ≠ none ∧
        ∀ scope commands options, crowded.violations scope commands options ≠ []) ∧
      empty.nameFault? "<root>" = none ∧ empty.emptyFault? [] ≠ none ∧
        ∀ scope commands options, empty.violations scope commands options ≠ [] := by
  intro rules crowded empty
  obtain ⟨accepted, refused⟩ := accepted_satisfiable_refused_unsatisfiable
  have faultless : rules.fault? = none := by decide
  have built : Grammar.ofLevel rules = .ok ⟨rules, faultless⟩ := by rfl
  obtain ⟨tree, silent⟩ := accepted rules ⟨rules, faultless⟩ built
  have crowdedNames : crowded.nameFault? "<root>" = none := by decide
  have crowdedCount : crowded.countFault? "<root>" ≠ none := by decide
  have emptyNames : empty.nameFault? "<root>" = none := by decide
  have emptySet : empty.emptyFault? [] ≠ none := by decide
  exact ⟨⟨_, tree, built, silent⟩,
    ⟨crowdedNames, crowdedCount, refused crowded "<root>" [] crowdedNames (.inl crowdedCount)⟩,
    emptyNames, emptySet, refused empty "<root>" [] emptyNames (.inr emptySet)⟩

end CommandLine
