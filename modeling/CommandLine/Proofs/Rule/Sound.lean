import CommandLine.Proofs.Rule.Reach

/-!
# Sound levels

A level is sound if its names can be told apart, it has room for the commands that must
occur, it has a rule for a command that may occur if it must hold one, and nothing lies
below a command that may not occur.  Rules have no fault exactly if all levels that they
reach are sound (`Level.fault?_eq_none_iff_sound`): a reader of the rules stops at the
first fault, but misses none.
-/

set_option autoImplicit false

namespace CommandLine

/-- The rules of a level do not contradict each other. -/
structure Level.Sound (level : Level) : Prop where
  named : level.WellNamed
  room : ∀ most, level.quantifier.most? = some most →
    level.commands.countP (fun rule => rule.quantifier.demands) ≤ most
  fillable : level.quantifier.demands = true → ∃ rule ∈ level.commands, rule.quantifier ≠ .zero
  forbidden : ∀ rule ∈ level.commands, rule.quantifier = .zero →
    rule.options = [] ∧ rule.commands = []

/-! ## Faults of one level -/

theorem Level.length_demanded (level : Level) :
    level.demanded.length = level.commands.countP fun rule => rule.quantifier.demands :=
  List.countP_eq_length_filter.symm

theorem Level.countFault?_eq_none_iff (level : Level) (path : String) :
    level.countFault? path = none ↔ ∀ most, level.quantifier.most? = some most →
      level.commands.countP (fun rule => rule.quantifier.demands) ≤ most := by
  rw [← level.length_demanded]
  cases limit : level.quantifier.most? <;> simp [Level.countFault?, limit]

theorem Level.emptyFault?_eq_none_iff (level : Level) (owners : List String) :
    level.emptyFault? owners = none ↔
      (level.quantifier.demands = true → ∃ rule ∈ level.commands, rule.quantifier ≠ .zero) := by
  unfold Level.emptyFault?
  split
  · rename_i empty
    simp only [Bool.and_eq_true, List.all_eq_true, beq_iff_eq] at empty
    obtain ⟨demanded, forbidden⟩ := empty
    have unfilled : ¬ ∃ rule ∈ level.commands, rule.quantifier ≠ .zero := by
      rintro ⟨rule, declared, occurs⟩
      exact occurs (forbidden rule declared)
    cases owners.getLast? <;> simp [demanded, unfilled]
  · rename_i filled
    simpa using filled

theorem CommandRule.forbiddenFault?_eq_none_iff (rule : CommandRule) (path : String) :
    rule.forbiddenFault? path = none ↔ rule.options = [] ∧ rule.commands = [] := by
  unfold CommandRule.forbiddenFault?
  cases rule.options <;> cases rule.commands <;> simp

theorem CommandRule.fault?_of_zero {rule : CommandRule} (owners : List String)
    (forbidden : rule.quantifier = .zero) :
    rule.fault? owners = rule.forbiddenFault? (pathText owners) := by
  rcases rule with ⟨name, quantifier, subcommands, commands, options⟩
  rw [CommandRule.fault?, if_pos forbidden]

theorem Level.ownFault?_eq_none_iff (level : Level) (owners : List String) :
    level.ownFault? owners = none ↔
      level.nameFault? (pathText owners) = none ∧ level.countFault? (pathText owners) = none ∧
        level.emptyFault? owners = none := by
  simp only [Level.ownFault?, Option.orElse_eq_orElse, Option.orElse_eq_or, Option.or_eq_none_iff]

/-! ## Faults below a level -/

/-- A level and all below it lack faults if the level is sound and the levels below the
commands that may occur lack faults. -/
theorem Level.faultlessUnder_iff (level : Level) (owners : List String) :
    level.FaultlessUnder owners ↔
      level.Sound ∧ ∀ rule ∈ level.commands, rule.quantifier ≠ .zero →
        rule.level.FaultlessUnder (owners ++ [rule.name]) := by
  constructor
  · intro ⟨own, below⟩
    obtain ⟨names, count, filled⟩ := (level.ownFault?_eq_none_iff owners).1 own
    have clean := (CommandRule.firstFault?_eq_none_iff owners level.commands).1 below
    refine ⟨⟨(level.nameFault?_eq_none_iff_wellNamed _).1 names,
      (level.countFault?_eq_none_iff _).1 count, (level.emptyFault?_eq_none_iff owners).1 filled,
      ?_⟩, ?_⟩
    · intro rule declared forbidden
      have silent := clean rule declared
      rw [CommandRule.fault?_of_zero owners forbidden] at silent
      exact (rule.forbiddenFault?_eq_none_iff _).1 silent
    · intro rule declared occurs
      exact (CommandRule.fault?_eq_none_iff_of_occurs owners occurs).1 (clean rule declared)
  · intro ⟨sound, below⟩
    refine ⟨(level.ownFault?_eq_none_iff owners).2
      ⟨(level.nameFault?_eq_none_iff_wellNamed _).2 sound.named,
        (level.countFault?_eq_none_iff _).2 sound.room,
        (level.emptyFault?_eq_none_iff owners).2 sound.fillable⟩, ?_⟩
    rw [CommandRule.firstFault?_eq_none_iff]
    intro rule declared
    by_cases forbidden : rule.quantifier = .zero
    · rw [CommandRule.fault?_of_zero owners forbidden, CommandRule.forbiddenFault?_eq_none_iff]
      exact sound.forbidden rule declared forbidden
    · exact (CommandRule.fault?_eq_none_iff_of_occurs owners forbidden).2
        (below rule declared forbidden)

/-- What holds of all levels that a level reaches holds of the level, and of all that the
commands on it reach. -/
theorem Level.forall_reaches_iff (level : Level) (property : Level → Prop) :
    (∀ target, level.Reaches target → property target) ↔
      property level ∧ ∀ rule ∈ level.commands, rule.quantifier ≠ .zero →
        ∀ target, rule.level.Reaches target → property target := by
  constructor
  · intro all
    exact ⟨all level (.here level), fun rule declared occurs target further =>
      all target (.down declared occurs further)⟩
  · intro ⟨own, below⟩ target reached
    cases reached with
    | here => exact own
    | down declared occurs further => exact below _ declared occurs target further

theorem CommandRule.faultlessUnder_iff_sound (rule : CommandRule) :
    ∀ owners, rule.level.FaultlessUnder owners ↔
      ∀ target, rule.level.Reaches target → target.Sound := by
  induction rule using CommandRule.induction with
  | step name quantifier subcommands commands options ih =>
      intro owners
      rw [Level.faultlessUnder_iff, Level.forall_reaches_iff]
      refine and_congr_right fun _ => forall_congr' fun rule => forall_congr' fun declared => ?_
      exact imp_congr_right fun _ => ih rule declared _

/-- Rules have no fault if all levels that they reach are sound. -/
theorem Level.fault?_eq_none_iff_sound (level : Level) :
    level.fault? = none ↔ ∀ target, level.Reaches target → target.Sound := by
  rw [Level.fault?_eq_none_iff, Level.faultlessUnder_iff, Level.forall_reaches_iff]
  refine and_congr_right fun _ => forall_congr' fun rule => forall_congr' fun declared => ?_
  exact imp_congr_right fun _ => rule.faultlessUnder_iff_sound _

theorem Grammar.sound_of_reaches (grammar : Grammar) {level : Level}
    (reached : grammar.level.Reaches level) : level.Sound :=
  grammar.level.fault?_eq_none_iff_sound.1 grammar.faultless level reached

/-! ## Levels of all rules -/

/-- A level is declared by rules at their top, or below one of their command rules, even if its
command may not occur. -/
inductive Level.Declares : Level → Level → Prop
  | here (level : Level) : Declares level level
  | down {level target : Level} {rule : CommandRule} (declared : rule ∈ level.commands)
      (further : Declares rule.level target) : Declares level target

theorem Level.Declares.sound_or_bare {level target : Level} (declares : level.Declares target)
    (sound : ∀ reached, level.Reaches reached → reached.Sound) :
    target.Sound ∨ target.commands = [] ∧ target.options = [] := by
  induction declares with
  | here level => exact .inl (sound level (.here level))
  | @down level target rule declared further ih =>
      by_cases occurs : rule.quantifier = .zero
      · -- nothing is declared below a command that may not occur
        obtain ⟨options, commands⟩ := (sound level (.here level)).forbidden rule declared occurs
        cases further with
        | here => exact .inr ⟨commands, options⟩
        | down inside _ =>
            have none : rule.level.commands = [] := commands
            rw [none] at inside
            cases inside
      · exact ih fun reached way => sound reached (.down declared occurs way)

theorem Level.wellNamed_of_bare {level : Level} (commands : level.commands = [])
    (options : level.options = []) : level.WellNamed := by
  constructor <;> simp [commands, options]

/-- Names can be told apart on every level of a grammar, checked or not. -/
theorem Grammar.wellNamed_of_declares (grammar : Grammar) {level : Level}
    (declares : grammar.level.Declares level) : level.WellNamed := by
  rcases declares.sound_or_bare fun _ reached => grammar.sound_of_reaches reached with
    sound | ⟨commands, options⟩
  · exact sound.named
  · exact Level.wellNamed_of_bare commands options

/-- A level that demands a command may hold one. -/
theorem Grammar.quantifier_ne_zero_of_demands (grammar : Grammar) {level : Level}
    (declares : grammar.level.Declares level) {rule : CommandRule}
    (declared : rule ∈ level.commands) (demands : rule.quantifier.demands = true) :
    level.quantifier ≠ .zero := by
  intro zero
  rcases declares.sound_or_bare fun _ reached => grammar.sound_of_reaches reached with
    sound | ⟨commands, -⟩
  · have fits := sound.room 0 (by rw [zero]; rfl)
    have counted : 0 < level.commands.countP fun rule => rule.quantifier.demands :=
      List.countP_pos_iff.2 ⟨rule, declared, demands⟩
    omega
  · rw [commands] at declared
    cases declared

end CommandLine
