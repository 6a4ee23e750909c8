import CommandLine.Proofs.Check.Commands
import CommandLine.Proofs.Rule.Reordered

/-!
# Checks against rules in another order

A check asks reordered levels for the same rules, so it finds the same faults in the same
order, but for what is lacking: commands and options that must occur are reported in the
order of their declaration.  Diagnostics are the same up to order
(`Level.Reordered.violations_perm`), and the order of a declaration is of no account
(`accepted_and_checked_reordered`).
-/

set_option autoImplicit false

namespace CommandLine

namespace Level

theorem repeated?_congr {rule image : CommandRule} (name : rule.name = image.name)
    (quantifier : rule.quantifier = image.quantifier) (earlier : List CommandUse) :
    repeated? rule earlier = repeated? image earlier := by
  simp only [repeated?, name, quantifier]

namespace Reordered

variable {level other : Level}

/-! ## Commands -/

theorem permits_eq (reordered : level.Reordered other) {rule image : CommandRule}
    (quantifier : rule.quantifier = image.quantifier) :
    level.permits rule = other.permits image := by
  rw [Level.permits, Level.permits, reordered.total_eq, quantifier]

theorem permitted?_cases (reordered : level.Reordered other) (named : level.WellNamed)
    (name : String) :
    (level.permitted? name = none ∧ other.permitted? name = none) ∨
      ∃ rule image, level.permitted? name = some rule ∧ other.permitted? name = some image ∧
        rule.name = image.name ∧ rule.quantifier = image.quantifier ∧
        rule.level.Reordered image.level := by
  rcases reordered.command?_cases named name with
    ⟨found, otherFound⟩ | ⟨rule, image, found, otherFound, sameName, same, below⟩
  · exact .inl ⟨by rw [permitted?, found]; rfl, by rw [permitted?, otherFound]; rfl⟩
  · have permits := reordered.permits_eq same
    cases permit : other.permits image with
    | false =>
        rw [permit] at permits
        refine .inl ⟨?_, ?_⟩
        · simp [permitted?, found, Option.filter, permits]
        · simp [permitted?, otherFound, Option.filter, permit]
    | true =>
        rw [permit] at permits
        refine .inr ⟨rule, image, ?_, ?_, sameName, same, below⟩
        · simp [permitted?, found, Option.filter, permits]
        · simp [permitted?, otherFound, Option.filter, permit]

theorem isSome_permitted? (reordered : level.Reordered other) (named : level.WellNamed)
    (name : String) : (level.permitted? name).isSome = (other.permitted? name).isSome := by
  rcases reordered.permitted?_cases named name with
    ⟨found, otherFound⟩ | ⟨rule, image, found, otherFound, -⟩
  · rw [found, otherFound]
  · rw [found, otherFound]
    rfl

theorem commandFault_eq (reordered : level.Reordered other) (named : level.WellNamed)
    (earlier : List CommandUse) (name : String) (span : Span) :
    level.commandFault earlier name span = other.commandFault earlier name span := by
  unfold commandFault
  rcases reordered.command?_cases named name with
    ⟨found, otherFound⟩ | ⟨rule, image, found, otherFound, sameName, same, -⟩
  · rw [found, otherFound]
  · rw [found, otherFound]
    simp only [reordered.permits_eq same, repeated?_congr sameName same]

theorem admitted_eq (reordered : level.Reordered other) (named : level.WellNamed)
    (earlier commands : List CommandUse) :
    level.admitted earlier commands = other.admitted earlier commands := by
  induction commands generalizing earlier with
  | nil => rfl
  | cons command rest ih =>
      rw [admitted, admitted, ih]
      rcases reordered.permitted?_cases named command.name with
        ⟨found, otherFound⟩ | ⟨rule, image, found, otherFound, sameName, same, -⟩
      · rw [found, otherFound]
      · rw [found, otherFound]
        simp only [repeated?_congr sameName same]

theorem names_lacking (level : Level) (commands : List CommandUse) :
    (level.lacking commands).map CommandRule.name =
      ((level.commands.map fun rule => (rule.name, rule.quantifier)).filter fun view =>
        view.2.demands && !commands.any fun command =>
          command.name == view.1 && (level.permitted? command.name).isSome).map Prod.fst := by
  rw [lacking, demanded, List.filter_map, List.map_map, List.filter_filter]
  congr 1
  refine List.filter_congr fun rule _ => ?_
  exact Bool.and_comm ..

theorem lacking_perm (reordered : level.Reordered other) (named : level.WellNamed)
    (commands : List CommandUse) :
    ((level.lacking commands).map CommandRule.name).Perm
      ((other.lacking commands).map CommandRule.name) := by
  rw [names_lacking, names_lacking]
  simp only [reordered.isSome_permitted? named]
  exact ((reordered.perm_map Prod.mk).filter _).map Prod.fst

theorem totals_perm (reordered : level.Reordered other) (named : level.WellNamed) (scope : Span)
    (commands : List CommandUse) :
    (level.totals scope commands).Perm (other.totals scope commands) := by
  have lacking := reordered.lacking_perm named commands
  have empty : (level.lacking commands).isEmpty = (other.lacking commands).isEmpty := by
    have length := lacking.length_eq
    rw [List.length_map, List.length_map] at length
    rw [Bool.eq_iff_iff, List.isEmpty_iff_length_eq_zero, List.isEmpty_iff_length_eq_zero, length]
  have missing := lacking.map fun name => Diagnostic.missingCommand (some name) scope
  rw [List.map_map, List.map_map] at missing
  dsimp only [totals]
  rw [reordered.total_eq, reordered.admitted_eq named, empty]
  exact (missing.append_right _).append_right _

/-! ## Options -/

theorem fallsUnder_eq (reordered : level.Reordered other) (named : level.WellNamed)
    (rule : OptionRule) : level.fallsUnder rule = other.fallsUnder rule := by
  funext option
  rw [fallsUnder, fallsUnder, reordered.option?_eq named]

theorem optionFaults_eq (reordered : level.Reordered other) (named : level.WellNamed)
    (earlier options : List OptionUse) :
    level.optionFaults earlier options = other.optionFaults earlier options := by
  induction options generalizing earlier with
  | nil => rfl
  | cons option rest ih =>
      rw [optionFaults, optionFaults, ih, reordered.option?_eq named]
      simp only [repetition, reordered.fallsUnder_eq named]

theorem checkOptions_perm (reordered : level.Reordered other) (named : level.WellNamed)
    (scope : Span) (options : List OptionUse) :
    (level.checkOptions scope options).Perm (other.checkOptions scope options) := by
  rw [checkOptions, checkOptions, reordered.optionFaults_eq named]
  refine List.Perm.append_left _ (List.Perm.map _ ?_)
  rw [lackingOptions, lackingOptions]
  simp only [reordered.fallsUnder_eq named]
  exact reordered.options_perm.filter _

/-! ## Levels -/

/-- One level of a check, from what is known of the commands on it. -/
theorem checkEach_perm_of_below (reordered : level.Reordered other)
    (named : ∀ target, level.Reaches target → target.WellNamed) (commands : List CommandUse)
    (below : ∀ command ∈ commands, ∀ {level other : Level}, level.Reordered other →
      (∀ target, level.Reaches target → target.WellNamed) → ∀ scope,
        (level.violations scope command.commands command.options).Perm
          (other.violations scope command.commands command.options))
    (earlier : List CommandUse) :
    (level.checkEach earlier commands).Perm (other.checkEach earlier commands) := by
  have here := named level (.here level)
  induction commands generalizing earlier with
  | nil => exact .refl _
  | cons command rest ih =>
      have later := ih (fun other member => below other (by simp [member])) (earlier ++ [command])
      rw [checkEach, checkEach, checkCommand_eq, checkCommand_eq, reordered.commandFault_eq here]
      refine (List.Perm.append_left _ ?_).append later
      rcases reordered.permitted?_cases here command.name with
        ⟨found, otherFound⟩ | ⟨rule, image, found, otherFound, -, -, alike⟩
      · rw [found, otherFound]
      · rw [found, otherFound]
        obtain ⟨declared, -, -, occurs⟩ := (permitted?_eq_some_iff here ..).1 found
        exact below command (by simp) alike
          (fun target reached => named target (.down declared occurs reached)) command.span

theorem violations_below_perm (command : CommandUse) :
    ∀ {level other : Level}, level.Reordered other →
      (∀ target, level.Reaches target → target.WellNamed) → ∀ scope,
        (level.violations scope command.commands command.options).Perm
          (other.violations scope command.commands command.options) := by
  induction command using CommandUse.induction with
  | step name nameSpan commands options ih =>
      intro level other reordered named scope
      have here := named level (.here level)
      exact ((reordered.checkEach_perm_of_below named commands ih []).append
        (reordered.totals_perm here scope commands)).append
          (reordered.checkOptions_perm here scope options)

/-- A check of one level in two orders finds the same, up to order. -/
theorem violations_perm (reordered : level.Reordered other)
    (named : ∀ target, level.Reaches target → target.WellNamed) (scope : Span)
    (commands : List CommandUse) (options : List OptionUse) :
    (level.violations scope commands options).Perm (other.violations scope commands options) :=
  violations_below_perm ⟨"", .point 0, commands, options⟩ reordered named scope

end Reordered

end Level

/-- Rules are accepted in any order or in none, and a check against them finds the same
diagnostics, as often, in any order. -/
theorem accepted_and_checked_reordered {level other : Level} (reordered : level.Reordered other) :
    ((∃ grammar, Grammar.ofLevel level = .ok grammar) ↔
      ∃ grammar, Grammar.ofLevel other = .ok grammar) ∧
    ∀ grammar otherGrammar, Grammar.ofLevel level = .ok grammar →
      Grammar.ofLevel other = .ok otherGrammar → ∀ tree : Tree,
        (check grammar tree).Perm (check otherGrammar tree) ∧
          (check grammar tree = [] ↔ check otherGrammar tree = []) := by
  constructor
  · rw [Grammar.exists_ofLevel_iff, Grammar.exists_ofLevel_iff, reordered.fault?_eq_none_iff]
  · intro grammar otherGrammar built otherBuilt tree
    obtain rfl := (Grammar.ofLevel_eq_ok_iff ..).1 built
    obtain rfl := (Grammar.ofLevel_eq_ok_iff ..).1 otherBuilt
    have found := reordered.violations_perm (fun _ reached => grammar.wellNamed_of_reaches reached)
      tree.span tree.commands tree.options
    have same : (check grammar tree).Perm (check otherGrammar tree) :=
      (List.mergeSort_perm ..).trans (found.trans (List.mergeSort_perm ..).symm)
    refine ⟨same, ?_⟩
    rw [← List.length_eq_zero_iff, ← List.length_eq_zero_iff, same.length_eq]

theorem accepted_and_checked_reordered_of_nested_rules :
    let force : OptionRule := ⟨"force", some 'f', false, false, false⟩
    let depth : OptionRule := ⟨"level", some 'l', true, true, true⟩
    let add : CommandRule := ⟨"add", .zeroOrOne, .zero, [], [force, depth]⟩
    let addTurned : CommandRule := ⟨"add", .zeroOrOne, .zero, [], [depth, force]⟩
    let drop : CommandRule := ⟨"drop", .one, .zero, [], []⟩
    let remote (commands : List CommandRule) : CommandRule :=
      ⟨"remote", .oneOrMultiple, .oneOrMultiple, commands, []⟩
    let rules : Level := ⟨.zeroOrMultiple, [remote [add, drop], drop], [depth, force]⟩
    let turned : Level := ⟨.zeroOrMultiple, [drop, remote [drop, addTurned]], [force, depth]⟩
    rules.Reordered turned ∧ rules.fault? = none ∧
      ((∃ grammar, Grammar.ofLevel rules = .ok grammar) ↔
        ∃ grammar, Grammar.ofLevel turned = .ok grammar) ∧
      ∀ grammar otherGrammar, Grammar.ofLevel rules = .ok grammar →
        Grammar.ofLevel turned = .ok otherGrammar → ∀ tree : Tree,
          (check grammar tree).Perm (check otherGrammar tree) ∧
            (check grammar tree = [] ↔ check otherGrammar tree = []) := by
  intro force depth add addTurned drop remote rules turned
  have same : drop.level.Reordered drop.level :=
    .intro [] rfl (.refl _) (.refl _) (.refl _) (by simp) (by simp) (by simp)
  have addAlike : add.level.Reordered addTurned.level :=
    .intro [] rfl (.swap ..) (.refl _) (.refl _) (by simp) (by simp) (by simp)
  have remoteAlike : (remote [add, drop]).level.Reordered (remote [drop, addTurned]).level := by
    refine .intro [(add, addTurned), (drop, drop)] rfl (.refl _) (.refl _) (.swap ..)
      (by decide) (by decide) ?_
    exact List.forall_mem_cons.2 ⟨addAlike, List.forall_mem_singleton.2 same⟩
  have reordered : rules.Reordered turned := by
    refine .intro [(remote [add, drop], remote [drop, addTurned]), (drop, drop)] rfl (.swap ..)
      (.refl _) (.swap ..) ?_ ?_ ?_
    · exact List.forall_mem_cons.2 ⟨rfl, List.forall_mem_singleton.2 rfl⟩
    · exact List.forall_mem_cons.2 ⟨rfl, List.forall_mem_singleton.2 rfl⟩
    · exact List.forall_mem_cons.2 ⟨remoteAlike, List.forall_mem_singleton.2 same⟩
  have faultless : rules.fault? = none := by decide
  exact ⟨reordered, faultless, accepted_and_checked_reordered reordered⟩

end CommandLine
