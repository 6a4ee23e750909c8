import CommandLine.Proofs.Rule.Names

/-!
# Rules that answer to one spelling

Two option rules are apart if no spelling of an option is accepted by both.  When no name
is blank, the names of a level have no fault exactly if its command rules differ in their
names and its option rules are apart.

An option then has at most one rule, wherever that is declared.  So the look-up of a level,
which prefers full names to letters, finds what a single search for a rule that accepts the
spelling finds, in any order of the rules (`Level.lookup_unambiguous`).
-/

set_option autoImplicit false

namespace CommandLine

/-- No spelling of an option is accepted by both rules. -/
def OptionRule.Apart (rule other : OptionRule) : Prop :=
  ∀ name dashes, rule.accepts name dashes = true → other.accepts name dashes = false

instance : Std.Symm OptionRule.Apart where
  symm := by
    intro rule other apart name dashes too
    rw [Bool.eq_false_iff]
    intro accepted
    rw [apart name dashes accepted] at too
    cases too

namespace Level

variable {level : Level}

/-! ## Names and spellings -/

theorem WellNamed.apart (named : level.WellNamed) : level.options.Pairwise OptionRule.Apart := by
  have distinct : level.options.Nodup := List.Nodup.of_map OptionRule.name named.optionNames
  refine distinct.imp_of_mem ?_
  intro rule other member inside different name dashes accepted
  rw [Bool.eq_false_iff]
  intro too
  exact different (eq_of_accepts named member inside accepted too)

/-- Two rules of one name, with one letter, or of which one has the other's name as its letter,
accept a spelling in common. -/
theorem wellNamed_of_apart
    (commandsVisible : ∀ rule ∈ level.commands, Text.allBlank rule.name = false)
    (optionsVisible : ∀ rule ∈ level.options, Text.allBlank rule.name = false)
    (commandNames : (level.commands.map CommandRule.name).Nodup)
    (apart : level.options.Pairwise OptionRule.Apart) : level.WellNamed := by
  have byName (rule : OptionRule) (dashes : Dashes) : rule.accepts rule.name dashes = true :=
    (accepts_iff ..).2 (.inl rfl)
  have byLetter {rule : OptionRule} {letter : Char} (short : rule.short? = some letter) :
      rule.accepts letter.toString .short = true :=
    (accepts_iff ..).2 (.inr ⟨rfl, letter, short, rfl⟩)
  refine ⟨commandsVisible, commandNames, optionsVisible, ?_, ?_, ?_⟩
  · refine List.pairwise_map.2 (apart.imp ?_)
    intro rule other separate same
    have refused := separate rule.name .long (byName rule .long)
    rw [same, byName] at refused
    cases refused
  · refine List.pairwise_filterMap.2 (apart.imp ?_)
    intro rule other separate letter short otherLetter otherShort same
    subst same
    have refused := separate letter.toString .short (byLetter short)
    rw [byLetter otherShort] at refused
    cases refused
  · intro rule member letter short other inside spelled
    by_contra different
    have unequal : rule ≠ other := by
      rintro rfl
      exact different spelled
    have refused := apart.forall member inside unequal _ _ (byLetter short)
    rw [← spelled, byName] at refused
    cases refused

/-! ## Look-ups -/

/-- The order in which the rules of a well-named level are searched does not matter. -/
theorem find?_accepts_eq_some_iff (named : level.WellNamed) {order : List OptionRule}
    (reordered : order.Perm level.options) (name : String) (dashes : Dashes)
    (rule : OptionRule) :
    (order.find? fun rule => rule.accepts name dashes) = some rule ↔
      rule ∈ level.options ∧ rule.accepts name dashes = true := by
  constructor
  · intro found
    refine ⟨reordered.mem_iff.1 (List.mem_of_find?_eq_some found), ?_⟩
    simpa using List.find?_some found
  · intro ⟨member, accepted⟩
    cases found : order.find? fun rule => rule.accepts name dashes with
    | none =>
        exact absurd accepted (List.find?_eq_none.1 found rule (reordered.mem_iff.2 member))
    | some other =>
        have inside := reordered.mem_iff.1 (List.mem_of_find?_eq_some found)
        have too : other.accepts name dashes = true := by simpa using List.find?_some found
        rw [eq_of_accepts named inside member too accepted]

/-- Where no name is blank, names without a fault are names that leave no choice of a rule. -/
theorem lookup_unambiguous
    (commandsVisible : ∀ rule ∈ level.commands, Text.allBlank rule.name = false)
    (optionsVisible : ∀ rule ∈ level.options, Text.allBlank rule.name = false) (path : String) :
    (level.nameFault? path = none ↔
      (level.commands.map CommandRule.name).Nodup ∧ level.options.Pairwise OptionRule.Apart) ∧
    (level.nameFault? path = none → ∀ name dashes,
      (∀ rule, level.option? name dashes = some rule ↔
        rule ∈ level.options ∧ rule.accepts name dashes = true) ∧
      (level.option? name dashes = none ↔
        ∀ rule ∈ level.options, rule.accepts name dashes = false) ∧
      ∀ order : List OptionRule, order.Perm level.options →
        level.option? name dashes = order.find? fun rule => rule.accepts name dashes) := by
  rw [nameFault?_eq_none_iff_wellNamed]
  constructor
  · constructor
    · intro named
      exact ⟨named.commandNames, named.apart⟩
    · intro ⟨commandNames, apart⟩
      exact wellNamed_of_apart commandsVisible optionsVisible commandNames apart
  · intro named name dashes
    have found := option?_eq_some_iff named name dashes
    refine ⟨found, ?_, ?_⟩
    · rw [Option.eq_none_iff_forall_ne_some]
      constructor
      · intro none rule member
        rw [Bool.eq_false_iff]
        intro accepted
        exact none rule ((found rule).2 ⟨member, accepted⟩)
      · intro refused rule some
        obtain ⟨member, accepted⟩ := (found rule).1 some
        rw [refused rule member] at accepted
        cases accepted
    · intro order reordered
      refine Option.ext fun rule => ?_
      rw [found, find?_accepts_eq_some_iff named reordered]

theorem lookup_unambiguous_with_letter_as_name :
    let quiet : OptionRule := ⟨"q", some 'q', false, false, false⟩
    let verbose : OptionRule := ⟨"verbose", some 'v', true, false, true⟩
    let level : Level := ⟨.zeroOrOne, [⟨"run", .one, .zero, [], []⟩], [quiet, verbose]⟩
    (∀ rule ∈ level.commands, Text.allBlank rule.name = false) ∧
      (∀ rule ∈ level.options, Text.allBlank rule.name = false) ∧
      level.nameFault? "app" = none ∧ level.option? "v" .short = some verbose ∧
      level.option? "v" .long = none ∧
      level.options.Pairwise OptionRule.Apart ∧
      ([verbose, quiet].find? fun rule => rule.accepts "q" .long) = some quiet := by
  intro quiet verbose level
  have commandsVisible : ∀ rule ∈ level.commands, Text.allBlank rule.name = false := by decide
  have optionsVisible : ∀ rule ∈ level.options, Text.allBlank rule.name = false := by decide
  have faultless : level.nameFault? "app" = none := by decide
  obtain ⟨decides, finds⟩ := lookup_unambiguous commandsVisible optionsVisible "app"
  refine ⟨commandsVisible, optionsVisible, faultless, by decide, by decide,
    (decides.1 faultless).2, ?_⟩
  obtain ⟨found, -, anyOrder⟩ := finds faultless "q" .long
  rw [← anyOrder [verbose, quiet] (List.Perm.swap ..)]
  exact (found quiet).2 ⟨List.mem_cons_self, by decide⟩

end Level

end CommandLine
