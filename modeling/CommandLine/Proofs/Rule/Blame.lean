import CommandLine.Proofs.Rule.Sound
import Mathlib.Data.List.Nodup
import Mathlib.Data.List.Perm.Subperm

/-!
# What the errors of rules say

An error of rules puts the blame on one level, which the rules reach by the names of the
commands around it.  `Level.AtFault` lists what each error says of that level, and a
reader of rules never says anything else (`Level.exists_atFault_of_fault?`).

Two siblings clash when both answer to one spelling, not when they are equal; so clashes
are counted (`two_le_countP`).
-/

set_option autoImplicit false

namespace CommandLine

/-- A level lies on the way down from another one, below commands of the given names. -/
inductive Level.ReachesBy : Level → List String → Level → Prop
  | here (level : Level) : ReachesBy level [] level
  | down {level target : Level} {rule : CommandRule} {owners : List String}
      (declared : rule ∈ level.commands) (occurs : rule.quantifier ≠ .zero)
      (further : ReachesBy rule.level owners target) :
      ReachesBy level (rule.name :: owners) target

/-- What an error says is true of a level that lies below commands of the given names. -/
inductive Level.AtFault (level : Level) (owners : List String) : RuleError → Prop
  | commandTwice {name : String}
      (twice : 2 ≤ level.commands.countP fun rule => rule.name == name) :
      AtFault level owners (.duplicateName .command name (pathText owners))
  /-- Two rules answer to one spelling behind a single dash, where letters count as well. -/
  | optionTwice {name : String}
      (twice : 2 ≤ level.options.countP fun rule => rule.accepts name .short) :
      AtFault level owners (.duplicateName .option name (pathText owners))
  | commandBlank {rule : CommandRule} (declared : rule ∈ level.commands)
      (blank : Text.allBlank rule.name = true) :
      AtFault level owners (.emptyName .command (pathText owners))
  | optionBlank {rule : OptionRule} (declared : rule ∈ level.options)
      (blank : Text.allBlank rule.name = true) :
      AtFault level owners (.emptyName .option (pathText owners))
  /-- The commands that must occur before this one take up all the room. -/
  | crowded {before after : List CommandRule} {rule : CommandRule} {reason : String}
      (declared : level.commands = before ++ rule :: after)
      (demanded : rule.quantifier.demands = true)
      (full : level.quantifier.most? =
        some (before.countP fun rule => rule.quantifier.demands)) :
      AtFault level owners (.unsatisfiable rule.name (pathText owners) reason)
  /-- The owner of the level is named, as a rule of the level around it. -/
  | unfilled {reason : String} (demanded : level.quantifier.demands = true)
      (forbidden : ∀ rule ∈ level.commands, rule.quantifier = .zero) :
      AtFault level owners
        (.unsatisfiable (owners.getLast?.getD rootPath) (pathText owners.dropLast) reason)
  | belowForbidden {rule : CommandRule} {name reason : String} (declared : rule ∈ level.commands)
      (forbidden : rule.quantifier = .zero)
      (below : name ∈ rule.options.map OptionRule.name ++ rule.commands.map CommandRule.name) :
      AtFault level owners
        (.unsatisfiable name (CommandRule.pathBelow (pathText owners) rule.name) reason)

/-! ## Names -/

theorem nameFault?_eq_some {sort : RuleSort} {path : String} {earlier names : List String}
    {error : RuleError} (found : nameFault? sort path earlier names = some error) :
    (∃ name ∈ names, Text.allBlank name = true ∧ error = .emptyName sort path) ∨
      ∃ name, 2 ≤ (names ++ earlier).count name ∧ error = .duplicateName sort name path := by
  induction names generalizing earlier with
  | nil => cases found
  | cons name rest ih =>
      unfold nameFault? at found
      split at found
      · rename_i blank
        cases found
        exact .inl ⟨name, by simp, blank, rfl⟩
      · split at found
        · rename_i seen
          cases found
          have before : 0 < earlier.count name := List.count_pos_iff.2 (by simpa using seen)
          refine .inr ⟨name, ?_, rfl⟩
          simp only [List.cons_append, List.count_cons_self, List.count_append]
          omega
        · rcases ih found with ⟨other, later, blank, same⟩ | ⟨other, twice, same⟩
          · exact .inl ⟨other, List.mem_cons_of_mem _ later, blank, same⟩
          · have moved : (rest ++ name :: earlier).Perm (name :: rest ++ earlier) :=
              List.perm_middle
            exact .inr ⟨other, by rwa [moved.count_eq] at twice, same⟩

theorem letterFault?_eq_some {path : String} {names : List String} {earlier : List Char}
    {rules : List OptionRule} {error : RuleError}
    (found : letterFault? path names earlier rules = some error) :
    ∃ letter : Char, error = .duplicateName .option letter.toString path ∧
      (2 ≤ (rules.filterMap OptionRule.short? ++ earlier).count letter ∨
        ∃ rule ∈ rules, rule.short? = some letter ∧ letter.toString ∈ names ∧
          rule.name ≠ letter.toString) := by
  induction rules generalizing earlier with
  | nil => cases found
  | cons rule rest ih =>
      unfold letterFault? at found
      cases short : rule.short? with
      | none =>
          rw [short] at found
          obtain ⟨letter, same, clash⟩ := ih found
          refine ⟨letter, same, clash.imp (fun twice => ?_) ?_⟩
          · rwa [List.filterMap_cons_none short]
          · rintro ⟨other, later, clash⟩
            exact ⟨other, List.mem_cons_of_mem _ later, clash⟩
      | some letter =>
          simp only [short] at found
          rw [List.filterMap_cons_some short]
          split at found
          · rename_i clash
            cases found
            refine ⟨letter, rfl, ?_⟩
            simp only [Bool.or_eq_true, Bool.and_eq_true, List.contains_eq_mem, decide_eq_true_eq,
              bne_iff_ne, ne_eq] at clash
            rcases clash with seen | ⟨named, other⟩
            · have before : 0 < earlier.count letter := List.count_pos_iff.2 seen
              refine .inl ?_
              simp only [List.cons_append, List.count_cons_self, List.count_append]
              omega
            · exact .inr ⟨rule, by simp, short, named, other⟩
          · obtain ⟨spelled, same, clash⟩ := ih found
            have moved : (rest.filterMap OptionRule.short? ++ letter :: earlier).Perm
                (letter :: rest.filterMap OptionRule.short? ++ earlier) := List.perm_middle
            refine ⟨spelled, same, clash.imp (fun twice => by rwa [moved.count_eq] at twice) ?_⟩
            rintro ⟨other, later, clash⟩
            exact ⟨other, List.mem_cons_of_mem _ later, clash⟩

/-- Two different items of a list that satisfy `p` are both counted. -/
theorem two_le_countP {α : Type} [DecidableEq α] {p : α → Bool} {items : List α} {first second : α}
    (firstIn : first ∈ items) (secondIn : second ∈ items) (apart : first ≠ second)
    (firstHolds : p first = true) (secondHolds : p second = true) : 2 ≤ items.countP p := by
  have inside : [first, second] ⊆ items.filter p := by
    simp [firstIn, secondIn, firstHolds, secondHolds]
  have distinct : [first, second].Nodup := by simp [apart]
  rw [List.countP_eq_length_filter]
  exact (distinct.subperm inside).length_le

theorem Level.atFault_of_nameFault? {level : Level} {owners : List String} {error : RuleError}
    (found : level.nameFault? (pathText owners) = some error) : level.AtFault owners error := by
  simp only [Level.nameFault?, Option.orElse_eq_orElse, Option.orElse_eq_or,
    Option.or_eq_some_iff] at found
  rcases found with commandFault | ⟨-, optionFault | ⟨-, letterFault⟩⟩
  · rcases nameFault?_eq_some commandFault with ⟨name, given, blank, rfl⟩ | ⟨name, twice, rfl⟩
    · obtain ⟨rule, declared, rfl⟩ := List.mem_map.1 given
      exact .commandBlank declared blank
    · rw [List.append_nil, List.count, List.countP_map] at twice
      exact .commandTwice twice
  · rcases nameFault?_eq_some optionFault with ⟨name, given, blank, rfl⟩ | ⟨name, twice, rfl⟩
    · obtain ⟨rule, declared, rfl⟩ := List.mem_map.1 given
      exact .optionBlank declared blank
    · rw [List.append_nil, List.count, List.countP_map] at twice
      refine .optionTwice (Nat.le_trans twice (List.countP_mono_left fun rule _ named => ?_))
      exact (accepts_iff ..).2 (.inl (by simpa using named))
  · obtain ⟨letter, rfl, clash⟩ := letterFault?_eq_some letterFault
    have byLetter : ∀ rule : OptionRule, rule.short? = some letter →
        rule.accepts letter.toString .short = true := fun rule short =>
      (accepts_iff ..).2 (.inr ⟨rfl, letter, short, rfl⟩)
    rcases clash with twice | ⟨rule, declared, short, named, other⟩
    · rw [List.append_nil, List.count, List.countP_filterMap] at twice
      refine .optionTwice (Nat.le_trans twice (List.countP_mono_left fun rule _ same => ?_))
      apply byLetter
      cases short : rule.short? <;> simp_all
    · obtain ⟨owner, ownerDeclared, spelled⟩ := List.mem_map.1 named
      refine .optionTwice (two_le_countP declared ownerDeclared ?_ (byLetter rule short) ?_)
      · rintro rfl
        exact other spelled
      · exact (accepts_iff ..).2 (.inl spelled)

/-! ## Numbers of commands -/

/-- What is left of the items that satisfy `p` behind some of them starts with an item that
has just these in front of it. -/
theorem exists_of_drop_filter {α : Type} {p : α → Bool} {items : List α} {count : Nat} {item : α}
    (found : ((items.filter p).drop count).head? = some item) :
    ∃ before after, items = before ++ item :: after ∧ p item = true ∧ before.countP p = count := by
  obtain ⟨rest, behind⟩ := List.head?_eq_some_iff.1 found
  have whole := List.take_append_drop count (items.filter p)
  rw [behind] at whole
  obtain ⟨front, back, rfl, taken, left⟩ := List.filter_eq_append_iff.1 whole.symm
  obtain ⟨skipped, after, rfl, fail, holds, -⟩ := List.filter_eq_cons_iff.1 left
  refine ⟨front ++ skipped, after, by simp, holds, ?_⟩
  have inside : count < ((front ++ (skipped ++ item :: after)).filter p).length := by
    rw [← Nat.not_le]
    intro short
    rw [List.drop_eq_nil_iff.2 short] at behind
    cases behind
  have none : skipped.countP p = 0 := List.countP_eq_zero.2 fail
  rw [List.countP_append, none, List.countP_eq_length_filter, taken, List.length_take]
  omega

theorem Level.atFault_of_countFault? {level : Level} {owners : List String} {error : RuleError}
    (found : level.countFault? (pathText owners) = some error) : level.AtFault owners error := by
  obtain ⟨most, limit, found⟩ := Option.bind_eq_some_iff.1 found
  obtain ⟨rule, first, rfl⟩ := Option.map_eq_some_iff.1 found
  obtain ⟨before, after, declared, demanded, full⟩ := exists_of_drop_filter first
  exact .crowded declared demanded (by rw [limit, full])

theorem Level.atFault_of_emptyFault? {level : Level} {owners : List String} {error : RuleError}
    (found : level.emptyFault? owners = some error) : level.AtFault owners error := by
  unfold Level.emptyFault? at found
  split at found
  · rename_i empty
    simp only [Bool.and_eq_true, List.all_eq_true, beq_iff_eq] at empty
    cases last : owners.getLast? with
    | none =>
        obtain rfl : owners = [] := List.getLast?_eq_none_iff.1 last
        cases found
        exact .unfilled empty.1 empty.2
    | some name =>
        have named : name = owners.getLast?.getD rootPath := by rw [last, Option.getD_some]
        simp only [last, Option.some.injEq] at found
        rw [← found, named]
        exact .unfilled empty.1 empty.2
  · cases found

theorem Level.atFault_of_ownFault? {level : Level} {owners : List String} {error : RuleError}
    (found : level.ownFault? owners = some error) : level.AtFault owners error := by
  simp only [Level.ownFault?, Option.orElse_eq_orElse, Option.orElse_eq_or,
    Option.or_eq_some_iff] at found
  rcases found with names | ⟨-, count | ⟨-, empty⟩⟩
  · exact atFault_of_nameFault? names
  · exact atFault_of_countFault? count
  · exact atFault_of_emptyFault? empty

theorem Level.atFault_of_forbiddenFault? {level : Level} {owners : List String}
    {rule : CommandRule} {error : RuleError} (declared : rule ∈ level.commands)
    (forbidden : rule.quantifier = .zero)
    (found : rule.forbiddenFault? (pathText owners) = some error) : level.AtFault owners error := by
  unfold CommandRule.forbiddenFault? at found
  split at found
  · rename_i option rest some
    cases found
    exact .belowForbidden declared forbidden (by simp [some])
  · rename_i none command rest some
    cases found
    exact .belowForbidden declared forbidden (by simp [some])
  · cases found

/-! ## Whole rules -/

theorem CommandRule.exists_of_firstFault? {owners : List String} {rules : List CommandRule}
    {error : RuleError} (found : firstFault? owners rules = some error) :
    ∃ rule ∈ rules, rule.fault? owners = some error := by
  induction rules with
  | nil => cases found
  | cons rule rest ih =>
      rw [firstFault?, Option.orElse_eq_orElse, Option.orElse_eq_or, Option.or_eq_some_iff] at found
      rcases found with here | ⟨-, later⟩
      · exact ⟨rule, by simp, here⟩
      · obtain ⟨other, declared, fault⟩ := ih later
        exact ⟨other, List.mem_cons_of_mem _ declared, fault⟩

/-- A fault below a level belongs to a level that can be reached from there. -/
def Level.Blamed (level : Level) (owners : List String) (error : RuleError) : Prop :=
  ∃ further target, level.ReachesBy further target ∧ target.AtFault (owners ++ further) error

/-- One level of the search for faults, from what is known of the levels below. -/
theorem Level.blamed_of_below {level : Level} {owners : List String} {error : RuleError}
    (below : ∀ rule ∈ level.commands, rule.quantifier ≠ .zero →
      ∀ error, rule.fault? owners = some error → rule.level.Blamed (owners ++ [rule.name]) error)
    (found : (level.ownFault? owners).or (CommandRule.firstFault? owners level.commands) =
      some error) : level.Blamed owners error := by
  have here : level.AtFault owners error → level.Blamed owners error := fun fault =>
    ⟨[], level, .here level, by rwa [List.append_nil]⟩
  rcases Option.or_eq_some_iff.1 found with own | ⟨-, first⟩
  · exact here (atFault_of_ownFault? own)
  · obtain ⟨rule, declared, fault⟩ := CommandRule.exists_of_firstFault? first
    by_cases forbidden : rule.quantifier = .zero
    · rw [CommandRule.fault?_of_zero owners forbidden] at fault
      exact here (atFault_of_forbiddenFault? declared forbidden fault)
    · obtain ⟨further, target, reached, blame⟩ := below rule declared forbidden error fault
      refine ⟨rule.name :: further, target, .down declared forbidden reached, ?_⟩
      rwa [List.append_assoc, List.singleton_append] at blame

theorem CommandRule.blamed_of_fault? (rule : CommandRule) :
    ∀ owners error, rule.quantifier ≠ .zero → rule.fault? owners = some error →
      rule.level.Blamed (owners ++ [rule.name]) error := by
  induction rule using CommandRule.induction with
  | step name quantifier subcommands commands options ih =>
      intro owners error occurs found
      rw [CommandRule.fault?, if_neg occurs, Option.orElse_eq_orElse, Option.orElse_eq_or] at found
      refine Level.blamed_of_below ?_ found
      intro rule declared occurs error fault
      exact ih rule declared _ error occurs fault

theorem Level.exists_atFault_of_fault? {level : Level} {error : RuleError}
    (found : level.fault? = some error) :
    ∃ owners target, level.ReachesBy owners target ∧ target.AtFault owners error := by
  rw [Level.fault?, Option.orElse_eq_orElse, Option.orElse_eq_or] at found
  have blamed : level.Blamed [] error := Level.blamed_of_below
    (fun rule _ occurs error fault => rule.blamed_of_fault? [] error occurs fault) found
  exact blamed

/-- Rules become a grammar if all levels that they reach are sound.  Otherwise the error
is true of such a level. -/
theorem Grammar.ofLevel_decides_soundness (level : Level) :
    ((∃ grammar, Grammar.ofLevel level = .ok grammar ∧ grammar.level = level) ↔
      ∀ target, level.Reaches target → target.Sound) ∧
    ∀ error, Grammar.ofLevel level = .error error →
      ∃ owners target, level.ReachesBy owners target ∧ target.AtFault owners error := by
  constructor
  · rw [← level.fault?_eq_none_iff_sound]
    constructor
    · rintro ⟨grammar, -, rfl⟩
      exact grammar.faultless
    · intro faultless
      exact ⟨⟨level, faultless⟩, (ofLevel_eq_ok_iff ..).2 rfl, rfl⟩
  · intro error refused
    exact Level.exists_atFault_of_fault? ((ofLevel_eq_error_iff ..).1 refused)

end CommandLine
