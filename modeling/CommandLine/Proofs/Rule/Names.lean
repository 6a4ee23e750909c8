import CommandLine.Rule.Fault
import Mathlib.Data.List.Nodup
import Mathlib.Data.List.Pairwise

/-!
# Names of sibling rules

The names of a level have no fault exactly when the level is `WellNamed`: no
name is blank, siblings of one sort differ in their names, no letter stands for
two options, and none spells the name of another option.

On a well-named level a command has at most one rule and a spelling of an option
is accepted by at most one.  The look-ups of a level are therefore plain
membership: `command?_eq_some_iff` and `option?_eq_some_iff`.
-/

set_option autoImplicit false

namespace CommandLine

theorem nameFault?_eq_none_iff (sort : RuleSort) (path : String) (earlier names : List String) :
    nameFault? sort path earlier names = none ↔
      (∀ name ∈ names, Text.allBlank name = false) ∧ names.Nodup ∧
        ∀ name ∈ names, name ∉ earlier := by
  induction names generalizing earlier with
  | nil => simp [nameFault?]
  | cons name rest ih =>
      unfold nameFault?
      by_cases blank : Text.allBlank name = true
      · simp [blank]
      by_cases seen : name ∈ earlier
      · simp [blank, seen]
      have visible : Text.allBlank name = false := by simpa using blank
      simp only [visible, Bool.false_eq_true, if_false, List.contains_eq_mem, seen, decide_false,
        ih, List.mem_cons, List.nodup_cons, not_or, forall_eq_or_imp, not_false_eq_true, true_and]
      constructor
      · intro ⟨blanks, distinct, fresh⟩
        exact ⟨blanks, ⟨fun member => (fresh name member).1 rfl, distinct⟩,
          fun other member => (fresh other member).2⟩
      · intro ⟨blanks, ⟨new, distinct⟩, fresh⟩
        refine ⟨blanks, distinct, fun other member => ⟨?_, fresh other member⟩⟩
        rintro rfl
        exact new member

theorem letterFault?_eq_none_iff (path : String) (names : List String) (earlier : List Char)
    (rules : List OptionRule) :
    letterFault? path names earlier rules = none ↔
      (rules.filterMap OptionRule.short?).Nodup ∧
        (∀ letter ∈ rules.filterMap OptionRule.short?, letter ∉ earlier) ∧
        ∀ rule ∈ rules, ∀ letter, rule.short? = some letter →
          letter.toString ∈ names → rule.name = letter.toString := by
  induction rules generalizing earlier with
  | nil => simp [letterFault?]
  | cons rule rest ih =>
      unfold letterFault?
      cases short : rule.short? with
      | none =>
          rw [List.filterMap_cons_none short]
          simp [ih, short]
      | some letter =>
          rw [List.filterMap_cons_some short]
          simp only [ite_eq_iff, ih, List.contains_eq_mem, Bool.or_eq_true, decide_eq_true_eq,
            Bool.and_eq_true, bne_iff_ne, ne_eq, reduceCtorEq, and_false, false_or, not_or,
            not_and, not_not, List.mem_cons, List.nodup_cons, forall_eq_or_imp, short,
            Option.some.injEq, forall_eq']
          constructor
          · intro ⟨⟨unseen, free⟩, distinct, fresh, others⟩
            exact ⟨⟨fun member => (fresh letter member).1 rfl, distinct⟩,
              ⟨unseen, fun other member => (fresh other member).2⟩, free, others⟩
          · intro ⟨⟨new, distinct⟩, ⟨unseen, fresh⟩, free, others⟩
            refine ⟨⟨unseen, free⟩, distinct, fun other member => ⟨?_, fresh other member⟩, others⟩
            rintro rfl
            exact new member

namespace Level

structure WellNamed (level : Level) : Prop where
  commandsVisible : ∀ rule ∈ level.commands, Text.allBlank rule.name = false
  commandNames : (level.commands.map CommandRule.name).Nodup
  optionsVisible : ∀ rule ∈ level.options, Text.allBlank rule.name = false
  optionNames : (level.options.map OptionRule.name).Nodup
  letters : (level.options.filterMap OptionRule.short?).Nodup
  lettersFree : ∀ rule ∈ level.options, ∀ letter, rule.short? = some letter →
    ∀ other ∈ level.options, other.name = letter.toString → rule.name = letter.toString

theorem nameFault?_eq_none_iff_wellNamed (level : Level) (path : String) :
    level.nameFault? path = none ↔ level.WellNamed := by
  have split : level.nameFault? path = none ↔
      CommandLine.nameFault? .command path [] (level.commands.map CommandRule.name) = none ∧
        CommandLine.nameFault? .option path [] (level.options.map OptionRule.name) = none ∧
        letterFault? path (level.options.map OptionRule.name) [] level.options = none := by
    simp only [nameFault?, Option.orElse_eq_orElse, Option.orElse_eq_or, Option.or_eq_none_iff]
  rw [split, CommandLine.nameFault?_eq_none_iff, CommandLine.nameFault?_eq_none_iff,
    letterFault?_eq_none_iff]
  simp only [List.forall_mem_map]
  simp only [List.not_mem_nil, not_false_eq_true, implies_true, and_true, true_and, List.mem_map,
    forall_exists_index, and_imp]
  constructor
  · intro ⟨⟨commandsVisible, commandNames⟩, ⟨optionsVisible, optionNames⟩, letters, free⟩
    exact ⟨commandsVisible, commandNames, optionsVisible, optionNames, letters, free⟩
  · intro ⟨commandsVisible, commandNames, optionsVisible, optionNames, letters, free⟩
    exact ⟨⟨commandsVisible, commandNames⟩, ⟨optionsVisible, optionNames⟩, letters, free⟩

/-! ## Look-ups on a well-named level -/

theorem command?_eq_some_iff {level : Level} (named : level.WellNamed) (name : String)
    (rule : CommandRule) :
    level.command? name = some rule ↔ rule ∈ level.commands ∧ rule.name = name := by
  constructor
  · exact mem_of_command?
  · intro ⟨member, rfl⟩
    cases found : level.command? rule.name with
    | none =>
        have absent := List.find?_eq_none.1 found rule member
        simp at absent
    | some other =>
        obtain ⟨inside, same⟩ := mem_of_command? found
        rw [List.inj_on_of_nodup_map named.commandNames inside member same]

theorem eq_of_short?_eq_some {level : Level} (named : level.WellNamed) {rule other : OptionRule}
    (member : rule ∈ level.options) (inside : other ∈ level.options) {letter : Char}
    (short : rule.short? = some letter) (same : other.short? = some letter) : rule = other := by
  have apart := List.pairwise_filterMap.1 named.letters
  have alike : ∀ first ∈ level.options, ∀ second ∈ level.options,
      first.short? = some letter → second.short? = some letter → first = second := by
    intro first firstIn second secondIn firstShort secondShort
    refine List.Pairwise.forall_of_forall_of_flip (R := fun first second =>
      first.short? = some letter → second.short? = some letter → first = second)
      (fun _ _ _ _ => rfl) ?_ ?_ firstIn secondIn firstShort secondShort
    · exact apart.imp fun clash one two => absurd rfl (clash letter one letter two)
    · exact apart.imp fun clash one two => absurd rfl (clash letter two letter one)
  exact alike rule member other inside short same

theorem accepts_iff (rule : OptionRule) (name : String) (dashes : Dashes) :
    rule.accepts name dashes = true ↔
      rule.name = name ∨
        dashes = .short ∧ ∃ letter, rule.short? = some letter ∧ name = letter.toString := by
  cases short : rule.short? <;> simp [OptionRule.accepts, short]

/-- Two rules of a well-named level never accept one spelling. -/
theorem eq_of_accepts {level : Level} (named : level.WellNamed) {rule other : OptionRule}
    (member : rule ∈ level.options) (inside : other ∈ level.options)
    {name : String} {dashes : Dashes}
    (accepted : rule.accepts name dashes = true) (too : other.accepts name dashes = true) :
    rule = other := by
  have byName : rule.name = other.name → rule = other :=
    List.inj_on_of_nodup_map named.optionNames member inside
  rcases (accepts_iff ..).1 accepted with full | ⟨-, letter, short, spelled⟩
  · rcases (accepts_iff ..).1 too with otherFull | ⟨-, otherLetter, otherShort, otherSpelled⟩
    · exact byName (full.trans otherFull.symm)
    · have free := named.lettersFree other inside otherLetter otherShort rule member
        (full.trans otherSpelled)
      exact byName ((full.trans otherSpelled).trans free.symm)
  · rcases (accepts_iff ..).1 too with otherFull | ⟨-, otherLetter, otherShort, otherSpelled⟩
    · have free := named.lettersFree rule member letter short other inside
        (otherFull.trans spelled)
      exact byName (free.trans (otherFull.trans spelled).symm)
    · have sameLetter : letter = otherLetter := by
        simpa using spelled.symm.trans otherSpelled
      subst sameLetter
      exact eq_of_short?_eq_some named member inside short otherShort

theorem option?_eq_some_iff {level : Level} (named : level.WellNamed) (name : String)
    (dashes : Dashes) (rule : OptionRule) :
    level.option? name dashes = some rule ↔
      rule ∈ level.options ∧ rule.accepts name dashes = true := by
  constructor
  · exact accepts_of_option?
  · intro ⟨member, accepted⟩
    have found : ∃ other, level.option? name dashes = some other := by
      unfold option?
      split
      · exact ⟨_, rfl⟩
      · refine Option.ne_none_iff_exists'.1 fun absent => ?_
        exact List.find?_eq_none.1 absent rule member accepted
    obtain ⟨other, found⟩ := found
    obtain ⟨inside, too⟩ := accepts_of_option? found
    rw [found, eq_of_accepts named member inside accepted too]

end Level

end CommandLine
