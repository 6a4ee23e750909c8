import CommandLine.Proofs.Check.Repetition
import CommandLine.Proofs.Rule.Names

/-!
# Checked options

A well-named level finds nothing wrong with some options exactly when they
conform to it: `checkOptions_eq_nil_iff`.  Names make the difference.  The check
looks rules up and compares their names, while conformity asks for each rule
which options it accepts.
-/

set_option autoImplicit false

namespace CommandLine.Level

variable {level : Level}

theorem fallsUnder_eq_matches (named : level.WellNamed) {rule : OptionRule}
    (declared : rule ∈ level.options) (option : OptionUse) :
    level.fallsUnder rule option = rule.matches option := by
  rw [Bool.eq_iff_iff]
  unfold fallsUnder
  rw [Option.any_eq_true]
  constructor
  · intro ⟨found, lookup, same⟩
    obtain ⟨member, accepted⟩ := accepts_of_option? lookup
    have equal : found = rule :=
      List.inj_on_of_nodup_map named.optionNames member declared (by simpa using same)
    rwa [equal] at accepted
  · intro accepted
    exact ⟨rule, (option?_eq_some_iff named ..).2 ⟨declared, accepted⟩, by simp⟩

theorem optionFaults_append (earlier front back : List OptionUse) :
    level.optionFaults earlier (front ++ back) =
      level.optionFaults earlier front ++ level.optionFaults (earlier ++ front) back := by
  induction front generalizing earlier with
  | nil => simp [optionFaults]
  | cons option rest ih => simp [optionFaults, ih]

theorem valueFault_eq_nil_iff (rule : OptionRule) (option : OptionUse) :
    valueFault rule option = [] ↔
      (rule.expectsValue = true ↔ option.value?.isSome = true) := by
  unfold valueFault
  cases rule.expectsValue <;> cases option.value? <;> simp

/-- The options left have rules, the values that these ask for, and no
repetition that these forbid. -/
structure OptionsPass (level : Level) (earlier options : List OptionUse) : Prop where
  ruled : ∀ option ∈ options, ∃ rule ∈ level.options, rule.matches option = true ∧
    (rule.expectsValue = true ↔ option.value?.isSome = true)
  once : ∀ rule ∈ level.options, rule.repeatable = false → Once rule.matches earlier options

theorem optionsPass_nil (earlier : List OptionUse) : level.OptionsPass earlier [] :=
  ⟨by simp, fun _ _ _ => once_nil _ earlier⟩

theorem optionsPass_cons_iff (named : level.WellNamed) (earlier rest : List OptionUse)
    (option : OptionUse) :
    level.OptionsPass earlier (option :: rest) ↔
      (∃ rule, level.option? option.name option.dashes = some rule ∧
        level.repetition rule earlier option = [] ∧ valueFault rule option = []) ∧
        level.OptionsPass (earlier ++ [option]) rest := by
  constructor
  · intro ⟨ruled, once⟩
    obtain ⟨rule, declared, accepted, valued⟩ := ruled option (by simp)
    refine ⟨⟨rule, (option?_eq_some_iff named ..).2 ⟨declared, accepted⟩, ?_,
      (valueFault_eq_nil_iff ..).2 valued⟩, fun other member => ruled other (by simp [member]),
      fun other member single => ((once_cons_iff ..).1 (once other member single)).2⟩
    rw [repetition_eq_nil_iff]
    intro single first member
    rw [fallsUnder_eq_matches named declared]
    exact ((once_cons_iff ..).1 (once rule declared single)).1 accepted first member
  · intro ⟨⟨rule, found, unrepeated, valued⟩, ruled, once⟩
    obtain ⟨declared, accepted⟩ := (option?_eq_some_iff named ..).1 found
    constructor
    · intro other member
      rcases List.mem_cons.1 member with rfl | later
      · exact ⟨rule, declared, accepted, (valueFault_eq_nil_iff ..).1 valued⟩
      · exact ruled other later
    · intro other member single
      refine (once_cons_iff ..).2 ⟨fun too first seen => ?_, once other member single⟩
      -- the rule that accepts the option is the one that was looked up
      obtain rfl : rule = other := eq_of_accepts named declared member accepted too
      have clear := (repetition_eq_nil_iff ..).1 unrepeated single first seen
      rwa [fallsUnder_eq_matches named declared] at clear

theorem optionFaults_eq_nil_iff (named : level.WellNamed) (earlier options : List OptionUse) :
    level.optionFaults earlier options = [] ↔ level.OptionsPass earlier options := by
  induction options generalizing earlier with
  | nil => exact ⟨fun _ => optionsPass_nil earlier, fun _ => rfl⟩
  | cons option rest ih =>
      rw [optionsPass_cons_iff named, ← ih, optionFaults, List.append_eq_nil_iff]
      refine and_congr_left fun _ => ?_
      cases found : level.option? option.name option.dashes with
      | none => simp
      | some rule => simp

theorem lackingOptions_eq_nil_iff (named : level.WellNamed) (options : List OptionUse) :
    level.lackingOptions options = [] ↔
      ∀ rule ∈ level.options, rule.required = true →
        ∃ option ∈ options, rule.matches option = true := by
  simp only [lackingOptions, List.filter_eq_nil_iff, Bool.and_eq_true, Bool.not_eq_true',
    not_and, Bool.not_eq_false, List.any_eq_true]
  refine forall₂_congr fun rule declared => ?_
  simp only [fallsUnder_eq_matches named declared]

theorem checkOptions_eq_nil_iff (named : level.WellNamed) (scope : Span)
    (options : List OptionUse) :
    level.checkOptions scope options = [] ↔ level.OptionsConform options := by
  rw [checkOptions, List.append_eq_nil_iff, List.map_eq_nil_iff, optionFaults_eq_nil_iff named,
    lackingOptions_eq_nil_iff named]
  constructor
  · intro ⟨⟨ruled, once⟩, required⟩
    refine ⟨fun option member => ?_, required,
      fun rule declared single => (once_nil_left_iff ..).1 (once rule declared single), ?_⟩
    · obtain ⟨rule, declared, accepted, -⟩ := ruled option member
      exact ⟨rule, declared, accepted⟩
    · intro rule declared option member accepted
      obtain ⟨other, inside, too, valued⟩ := ruled option member
      rwa [eq_of_accepts named declared inside accepted too]
  · intro ⟨matched, required, single, valued⟩
    refine ⟨⟨fun option member => ?_, fun rule declared once =>
      (once_nil_left_iff ..).2 (single rule declared once)⟩, required⟩
    obtain ⟨rule, declared, accepted⟩ := matched option member
    exact ⟨rule, declared, accepted, valued rule declared option member accepted⟩

end CommandLine.Level
