import CommandLine.Proofs.Check.Sample
import CommandLine.Proofs.Check.Sorted

/-!
# Relaxed rules

Rules are relaxed when quantifiers are widened, options need not be given any more or may
be repeated, and further rules are declared that ask for nothing.  A tree that conforms to
rules conforms to relaxed ones (`Conforms.relaxed`): what had a rule keeps it, since a
further rule of the same spelling would clash with the one that was there, and what had
none did not occur.  So relaxing accepted rules never makes a valid tree invalid
(`check_silent_of_relaxed`).
-/

set_option autoImplicit false

namespace CommandLine

/-! ## Wider quantifiers -/

namespace Quantifier

/-- Numbers of occurrences that were allowed stay so. -/
def Widened (quantifier wider : Quantifier) : Prop :=
  ∀ count, quantifier.admits count = true → wider.admits count = true

theorem admits_of_two_le (quantifier : Quantifier) {count : Nat} (many : 2 ≤ count) :
    quantifier.admits count = quantifier.admits 2 := by
  rw [Bool.eq_iff_iff, admits_iff, admits_iff]
  cases quantifier <;> simp [least, most?] <;> omega

theorem widened_iff (quantifier wider : Quantifier) :
    quantifier.Widened wider ↔
      ∀ count < 3, quantifier.admits count = true → wider.admits count = true := by
  constructor
  · exact fun widened count _ => widened count
  · intro small count allowed
    by_cases many : 2 ≤ count
    · rw [admits_of_two_le _ many] at allowed ⊢
      exact small 2 (by omega) allowed
    · exact small count (by omega) allowed

instance (quantifier wider : Quantifier) : Decidable (quantifier.Widened wider) :=
  decidable_of_iff _ (widened_iff quantifier wider).symm

theorem admits_zero_of_least {quantifier : Quantifier} (free : quantifier.least = 0) :
    quantifier.admits 0 = true := by
  rw [admits_zero_iff]
  simp [demands, free]

end Quantifier

/-! ## Relaxed rules -/

/-- An option keeps its spellings and its value, but less may be asked of it. -/
structure OptionRule.Relaxed (rule looser : OptionRule) : Prop where
  name : rule.name = looser.name
  letter : rule.short? = looser.short?
  value : rule.expectsValue = looser.expectsValue
  required : looser.required = true → rule.required = true
  repeatable : rule.repeatable = true → looser.repeatable = true

instance (rule looser : OptionRule) : Decidable (rule.Relaxed looser) :=
  decidable_of_iff
    (rule.name = looser.name ∧ rule.short? = looser.short? ∧
      rule.expectsValue = looser.expectsValue ∧
      (looser.required = true → rule.required = true) ∧
      (rule.repeatable = true → looser.repeatable = true))
    ⟨fun ⟨name, letter, value, required, repeatable⟩ =>
        ⟨name, letter, value, required, repeatable⟩,
      fun relaxed => ⟨relaxed.name, relaxed.letter, relaxed.value, relaxed.required,
        relaxed.repeatable⟩⟩

theorem OptionRule.Relaxed.matches_eq {rule looser : OptionRule} (relaxed : rule.Relaxed looser) :
    rule.matches = looser.matches := by
  funext option
  simp only [OptionRule.matches, OptionRule.accepts, relaxed.name, relaxed.letter]

/-- All rules of a level are left, relaxed here and below, among further rules that ask
for nothing. -/
inductive Level.Relaxed : Level → Level → Prop
  | intro {level looser : Level} (commands : List (CommandRule × CommandRule))
      (options : List (OptionRule × OptionRule)) (moreCommands : List CommandRule)
      (moreOptions : List OptionRule) (total : level.quantifier.Widened looser.quantifier)
      (commandsBefore : level.commands.Perm (commands.map Prod.fst))
      (commandsAfter : looser.commands.Perm (commands.map Prod.snd ++ moreCommands))
      (optionsBefore : level.options.Perm (options.map Prod.fst))
      (optionsAfter : looser.options.Perm (options.map Prod.snd ++ moreOptions))
      (names : ∀ pair ∈ commands, pair.1.name = pair.2.name)
      (quantifiers : ∀ pair ∈ commands, pair.1.quantifier.Widened pair.2.quantifier)
      (below : ∀ pair ∈ commands, Relaxed pair.1.level pair.2.level)
      (optionsRelaxed : ∀ pair ∈ options, pair.1.Relaxed pair.2)
      (commandsFree : ∀ rule ∈ moreCommands, rule.quantifier.least = 0)
      (optionsFree : ∀ rule ∈ moreOptions, rule.required = false) :
      Relaxed level looser

structure CommandRule.Relaxed (rule looser : CommandRule) : Prop where
  name : rule.name = looser.name
  quantifier : rule.quantifier.Widened looser.quantifier
  below : rule.level.Relaxed looser.level

theorem CommandRule.Relaxed.names_eq {rule looser : CommandRule} (relaxed : rule.Relaxed looser) :
    rule.names = looser.names := by
  funext command
  rw [CommandRule.names, CommandRule.names, relaxed.name]

namespace Level

variable {level looser : Level} {commands : List CommandUse} {options : List OptionUse}

namespace Relaxed

theorem total_widened (relaxed : level.Relaxed looser) :
    level.quantifier.Widened looser.quantifier := by
  cases relaxed with
  | intro _ _ _ _ total => exact total

theorem exists_command (relaxed : level.Relaxed looser) {rule : CommandRule}
    (declared : rule ∈ level.commands) : ∃ image ∈ looser.commands, rule.Relaxed image := by
  cases relaxed with
  | intro commands _ _ _ _ commandsBefore commandsAfter _ _ names quantifiers below =>
      obtain ⟨pair, member, rfl⟩ := List.mem_map.1 (commandsBefore.mem_iff.1 declared)
      refine ⟨pair.2, commandsAfter.mem_iff.2 ?_,
        names pair member, quantifiers pair member, below pair member⟩
      exact List.mem_append_left _ (List.mem_map_of_mem member)

theorem exists_option (relaxed : level.Relaxed looser) {rule : OptionRule}
    (declared : rule ∈ level.options) : ∃ image ∈ looser.options, rule.Relaxed image := by
  cases relaxed with
  | intro _ options _ _ _ _ _ optionsBefore optionsAfter _ _ _ optionsRelaxed =>
      obtain ⟨pair, member, rfl⟩ := List.mem_map.1 (optionsBefore.mem_iff.1 declared)
      refine ⟨pair.2, optionsAfter.mem_iff.2 ?_, optionsRelaxed pair member⟩
      exact List.mem_append_left _ (List.mem_map_of_mem member)

theorem command_cases (relaxed : level.Relaxed looser) {image : CommandRule}
    (declared : image ∈ looser.commands) :
    (∃ rule ∈ level.commands, rule.Relaxed image) ∨ image.quantifier.least = 0 := by
  cases relaxed with
  | intro commands _ _ _ _ commandsBefore commandsAfter _ _ names quantifiers below _ free =>
      rcases List.mem_append.1 (commandsAfter.mem_iff.1 declared) with kept | more
      · obtain ⟨pair, member, rfl⟩ := List.mem_map.1 kept
        exact .inl ⟨pair.1, commandsBefore.mem_iff.2 (List.mem_map_of_mem member),
          names pair member, quantifiers pair member, below pair member⟩
      · exact .inr (free image more)

theorem option_cases (relaxed : level.Relaxed looser) {image : OptionRule}
    (declared : image ∈ looser.options) :
    (∃ rule ∈ level.options, rule.Relaxed image) ∨ image.required = false := by
  cases relaxed with
  | intro _ options _ _ _ _ _ optionsBefore optionsAfter _ _ _ optionsRelaxed _ free =>
      rcases List.mem_append.1 (optionsAfter.mem_iff.1 declared) with kept | more
      · obtain ⟨pair, member, rfl⟩ := List.mem_map.1 kept
        exact .inl ⟨pair.1, optionsBefore.mem_iff.2 (List.mem_map_of_mem member),
          optionsRelaxed pair member⟩
      · exact .inr (free image more)

end Relaxed

/-! ## What conforms keeps its rules -/

/-- A command that conforms has a rule of old among the relaxed ones, not a further one. -/
theorem CommandsConform.exists_origin (conform : level.CommandsConform commands)
    (relaxed : level.Relaxed looser) (named : looser.WellNamed) {command : CommandUse}
    (member : command ∈ commands) {image : CommandRule} (declared : image ∈ looser.commands)
    (bears : image.names command = true) : ∃ rule ∈ level.commands, rule.Relaxed image := by
  obtain ⟨rule, old, called⟩ := conform.named command member
  obtain ⟨other, inside, kept⟩ := relaxed.exists_command old
  rw [kept.names_eq] at called
  have same : other.name = image.name := (beq_iff_eq.1 called).symm.trans (beq_iff_eq.1 bears)
  rw [← List.inj_on_of_nodup_map named.commandNames inside declared same]
  exact ⟨rule, old, kept⟩

theorem OptionsConform.exists_origin (conform : level.OptionsConform options)
    (relaxed : level.Relaxed looser) (named : looser.WellNamed) {option : OptionUse}
    (member : option ∈ options) {image : OptionRule} (declared : image ∈ looser.options)
    (accepted : image.matches option = true) : ∃ rule ∈ level.options, rule.Relaxed image := by
  obtain ⟨rule, old, matched⟩ := conform.matched option member
  obtain ⟨other, inside, kept⟩ := relaxed.exists_option old
  rw [kept.matches_eq] at matched
  rw [← eq_of_accepts named inside declared matched accepted]
  exact ⟨rule, old, kept⟩

/-! ## Conformity -/

theorem CommandsConform.relaxed (conform : level.CommandsConform commands)
    (relaxed : level.Relaxed looser) (named : looser.WellNamed) :
    looser.CommandsConform commands := by
  refine ⟨?_, ?_, relaxed.total_widened _ conform.total⟩
  · intro command member
    obtain ⟨rule, declared, called⟩ := conform.named command member
    obtain ⟨image, inside, kept⟩ := relaxed.exists_command declared
    exact ⟨image, inside, kept.names_eq ▸ called⟩
  · intro image declared
    have widened : (∃ rule ∈ level.commands, rule.Relaxed image) →
        image.quantifier.admits (commands.countP image.names) = true := by
      rintro ⟨rule, old, kept⟩
      rw [← kept.names_eq]
      exact kept.quantifier _ (conform.each rule old)
    rcases Nat.eq_zero_or_pos (commands.countP image.names) with none | some
    · rcases relaxed.command_cases declared with origin | free
      · exact widened origin
      · rw [none]
        exact Quantifier.admits_zero_of_least free
    · obtain ⟨command, member, bears⟩ := List.countP_pos_iff.1 some
      exact widened (conform.exists_origin relaxed named member declared bears)

theorem OptionsConform.relaxed (conform : level.OptionsConform options)
    (relaxed : level.Relaxed looser) (named : looser.WellNamed) :
    looser.OptionsConform options := by
  constructor
  · intro option member
    obtain ⟨rule, declared, accepted⟩ := conform.matched option member
    obtain ⟨image, inside, kept⟩ := relaxed.exists_option declared
    exact ⟨image, inside, kept.matches_eq ▸ accepted⟩
  · intro image declared required
    rcases relaxed.option_cases declared with ⟨rule, old, kept⟩ | free
    · rw [← kept.matches_eq]
      exact conform.required rule old (kept.required required)
    · rw [required] at free
      cases free
  · intro image declared single
    rcases Nat.eq_zero_or_pos (options.countP image.matches) with none | some
    · omega
    · obtain ⟨option, member, accepted⟩ := List.countP_pos_iff.1 some
      obtain ⟨rule, old, kept⟩ := conform.exists_origin relaxed named member declared accepted
      rw [← kept.matches_eq]
      refine conform.single rule old (Bool.eq_false_iff.2 fun repeatable => ?_)
      rw [kept.repeatable repeatable] at single
      cases single
  · intro image declared option member accepted
    obtain ⟨rule, old, kept⟩ := conform.exists_origin relaxed named member declared accepted
    rw [← kept.value]
    exact conform.valued rule old option member (kept.matches_eq ▸ accepted)

theorem Conforms.relaxed (conforms : level.Conforms commands options) :
    ∀ {looser : Level}, level.Relaxed looser →
      (∀ target, looser.Reaches target → target.WellNamed) →
      looser.Conforms commands options := by
  induction conforms with
  | @intro level commands options commandsConform optionsConform inside ih =>
      intro looser relaxed named
      have here := named looser (.here looser)
      have looserConform := commandsConform.relaxed relaxed here
      refine .intro looserConform (optionsConform.relaxed relaxed here) ?_
      intro command member image declared bears
      obtain ⟨rule, old, kept⟩ :=
        commandsConform.exists_origin relaxed here member declared bears
      have occurs := looserConform.occurs member declared bears
      exact ih command member rule old (kept.names_eq ▸ bears) kept.below
        fun target reached => named target (.down declared occurs reached)

end Level

/-- A tree that is valid stays so when the rules are relaxed. -/
theorem check_silent_of_relaxed {grammar looser : Grammar}
    (relaxed : grammar.level.Relaxed looser.level) (tree : Tree)
    (silent : check grammar tree = []) : check looser tree = [] := by
  rw [check_eq_nil_iff] at silent ⊢
  exact silent.relaxed relaxed fun _ reached => looser.wellNamed_of_reaches reached

theorem check_silent_of_revived_command :
    let target : OptionRule := ⟨"target", some 't', true, true, false⟩
    let free : OptionRule := ⟨"target", some 't', false, true, true⟩
    let quiet : OptionRule := ⟨"quiet", some 'q', false, false, false⟩
    let step : CommandRule := ⟨"step", .one, .zero, [], [target]⟩
    let steps : CommandRule := ⟨"step", .oneOrMultiple, .zero, [], [quiet, free]⟩
    let legacy : CommandRule := ⟨"legacy", .zero, .zero, [], []⟩
    let revived : CommandRule := ⟨"legacy", .zeroOrOne, .zero, [], [quiet]⟩
    let build : CommandRule := ⟨"build", .one, .one, [step], []⟩
    let builds : CommandRule := ⟨"build", .oneOrMultiple, .oneOrMultiple, [legacy, steps], []⟩
    let test : CommandRule := ⟨"test", .zeroOrMultiple, .zero, [], []⟩
    let level : Level := ⟨.zeroOrOne, [legacy, build], []⟩
    let loose : Level := ⟨.zeroOrMultiple, [test, builds, revived], [quiet]⟩
    let given : OptionUse := ⟨"t", ⟨15, 2⟩, .short, some ⟨⟨"x", false⟩, ⟨18, 1⟩⟩⟩
    let tree : Tree := ⟨"app build step -t=x", ⟨⟨"app", false⟩, ⟨0, 3⟩⟩,
      [⟨"build", ⟨4, 5⟩, [⟨"step", ⟨10, 4⟩, [], [given]⟩], []⟩], []⟩
    ∃ grammar looser, Grammar.ofLevel level = .ok grammar ∧ Grammar.ofLevel loose = .ok looser ∧
      grammar.level.Relaxed looser.level ∧ check grammar tree = [] ∧ check looser tree = [] := by
  intro target free quiet step steps legacy revived build builds test level loose given tree
  have faultless : level.fault? = none := by decide
  have looseFaultless : loose.fault? = none := by decide
  have stepRelaxed : step.level.Relaxed steps.level :=
    .intro [] [(target, free)] [] [quiet] (by decide) (.refl _) (.refl _) (.refl _) (.swap ..)
      (by decide) (by decide) (by simp) (by decide) (by decide) (by decide)
  have legacyRelaxed : legacy.level.Relaxed revived.level :=
    .intro [] [] [] [quiet] (by decide) (.refl _) (.refl _) (.refl _) (.refl _)
      (by decide) (by decide) (by simp) (by decide) (by decide) (by decide)
  have buildRelaxed : build.level.Relaxed builds.level := by
    refine .intro [(step, steps)] [] [legacy] [] (by decide) (.refl _) (.swap ..) (.refl _)
      (.refl _) (by decide) (by decide) ?_ (by decide) (by decide) (by decide)
    exact List.forall_mem_singleton.2 stepRelaxed
  have relaxed : level.Relaxed loose := by
    refine .intro [(legacy, revived), (build, builds)] [] [test] [quiet] (by decide) (.refl _)
      (List.reverse_perm _).symm (.refl _) (.refl _) (by decide) (by decide) ?_ (by decide)
      (by decide) (by decide)
    exact List.forall_mem_cons.2 ⟨legacyRelaxed,
      List.forall_mem_singleton.2 buildRelaxed⟩
  have silent : check ⟨level, faultless⟩ tree = [] := by
    rw [check_eq_insertionSort]
    decide +kernel
  exact ⟨⟨level, faultless⟩, ⟨loose, looseFaultless⟩, (Grammar.ofLevel_eq_ok_iff ..).2 rfl,
    (Grammar.ofLevel_eq_ok_iff ..).2 rfl, relaxed, silent,
    check_silent_of_relaxed relaxed tree silent⟩

end CommandLine
