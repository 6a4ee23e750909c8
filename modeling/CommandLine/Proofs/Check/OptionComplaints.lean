import CommandLine.Proofs.Check.Options
import CommandLine.Proofs.Rule.Sound
import Mathlib.Data.List.Induction
import Mathlib.Data.List.Perm.Basic

/-!
# Complaints about options

A check goes through the options one after the other, looks each up by its spelling, and
remembers what it has met.  What it finds can be said rule by rule: the occurrences of a rule
are the options that it accepts, in whatever spelling, and what is wrong with them follows
from their list alone.  Options are told apart by the names of a level, so the check reports
just these complaints and those about options without a rule (`checkOptions_perm_complaints`).
-/

set_option autoImplicit false

namespace CommandLine

/-- The lists of distinct keys, put together, grow by what the list of one key grows by. -/
theorem flatMap_perm_append {α β : Type} {keys : List α} {before after : α → List β}
    {chosen : α} {added : List β} (nodup : keys.Nodup) (member : chosen ∈ keys)
    (grown : (after chosen).Perm (before chosen ++ added))
    (kept : ∀ key ∈ keys, key ≠ chosen → after key = before key) :
    (keys.flatMap after).Perm (keys.flatMap before ++ added) := by
  obtain ⟨front, back, rfl⟩ := List.append_of_mem member
  rw [List.nodup_middle, List.nodup_cons, List.mem_append, not_or] at nodup
  obtain ⟨⟨notBefore, notBehind⟩, -⟩ := nodup
  have frontKept : front.flatMap after = front.flatMap before :=
    List.flatMap_congr fun key inside =>
      kept key (by simp [inside]) fun same => notBefore (same ▸ inside)
  have backKept : back.flatMap after = back.flatMap before :=
    List.flatMap_congr fun key inside =>
      kept key (by simp [inside]) fun same => notBehind (same ▸ inside)
  simp only [List.flatMap_append, List.flatMap_cons, frontKept, backKept, List.append_assoc]
  refine .append_left _ ((grown.append_right _).trans ?_)
  rw [List.append_assoc]
  exact .append_left _ List.perm_append_comm

/-! ## Items given out to those who accept them -/

section Accepted

variable {α β γ : Type} {keys : List α} {item : γ} (accepts : α → γ → Bool)
  (report : α → List γ → List β) (items : List γ)

theorem flatMap_filter_concat_of_refused (refused : ∀ key ∈ keys, accepts key item = false) :
    (keys.flatMap fun key => report key ((items ++ [item]).filter (accepts key))) =
      keys.flatMap fun key => report key (items.filter (accepts key)) :=
  List.flatMap_congr fun key member => by simp [refused key member]

variable {items} in
/-- One more item is reported by the single key that accepts it. -/
theorem flatMap_filter_concat_perm {chosen : α} {added : List β} (nodup : keys.Nodup)
    (member : chosen ∈ keys) (single : ∀ key ∈ keys, accepts key item = true → key = chosen)
    (grown : (report chosen ((items ++ [item]).filter (accepts chosen))).Perm
      (report chosen (items.filter (accepts chosen)) ++ added)) :
    (keys.flatMap fun key => report key ((items ++ [item]).filter (accepts key))).Perm
      ((keys.flatMap fun key => report key (items.filter (accepts key))) ++ added) := by
  refine flatMap_perm_append nodup member grown fun key inside different => ?_
  have refused : accepts key item = false :=
    Bool.eq_false_iff.2 fun accepted => different (single key inside accepted)
  simp [refused]

end Accepted

theorem map_filter_eq_flatMap {α β : Type} (keep : α → Bool) (report : α → β) (items : List α) :
    (items.filter keep).map report =
      items.flatMap fun item => if keep item then [report item] else [] := by
  induction items with
  | nil => rfl
  | cons item rest ih => by_cases kept : keep item = true <;> simp [kept, ih]

namespace OptionRule

def occurrences (rule : OptionRule) (options : List OptionUse) : List OptionUse :=
  options.filter rule.matches

def repetitions (rule : OptionRule) : List OptionUse → List Diagnostic
  | [] => []
  | first :: others =>
      if rule.repeatable then []
      else others.map fun option => .duplicateOption rule.name option.span first.span

/-- A rule that expects a value misses it where there is none; a flag wants none. -/
def valueMistakes (rule : OptionRule) (given : List OptionUse) : List Diagnostic :=
  if rule.expectsValue then
    (given.filter fun option => option.value?.isNone).map fun option =>
      .missingOptionValue rule.name option.span
  else
    (given.filterMap OptionUse.value?).map fun value =>
      .unexpectedOptionValue rule.name value.span

def mistakes (rule : OptionRule) (given : List OptionUse) : List Diagnostic :=
  rule.repetitions given ++ rule.valueMistakes given

def absence (rule : OptionRule) (scope : Span) (given : List OptionUse) : List Diagnostic :=
  if rule.required && given.isEmpty then [.missingOption rule.name scope] else []

theorem occurrences_concat_of_matches {rule : OptionRule} {option : OptionUse}
    (accepted : rule.matches option = true) (options : List OptionUse) :
    rule.occurrences (options ++ [option]) = rule.occurrences options ++ [option] := by
  simp [occurrences, accepted]

theorem valueMistakes_append (rule : OptionRule) (given more : List OptionUse) :
    rule.valueMistakes (given ++ more) = rule.valueMistakes given ++ rule.valueMistakes more := by
  unfold valueMistakes
  split <;> simp

end OptionRule

namespace Level

def unruled (level : Level) (options : List OptionUse) : List OptionUse :=
  options.filter fun option => !level.options.any fun rule => rule.matches option

/-- All that is wrong with the options of one owner, rule by rule. -/
def optionComplaints (level : Level) (scope : Span) (options : List OptionUse) :
    List Diagnostic :=
  (level.unruled options).map (fun option => .unknownOption option.name option.span) ++
    level.options.flatMap fun rule =>
      rule.mistakes (rule.occurrences options) ++ rule.absence scope (rule.occurrences options)

variable {level : Level}

theorem nodup_options (named : level.WellNamed) : level.options.Nodup :=
  .of_map _ named.optionNames

/-! ## One more option -/

theorem find?_fallsUnder (named : level.WellNamed) {rule : OptionRule}
    (declared : rule ∈ level.options) (options : List OptionUse) :
    options.find? (level.fallsUnder rule) = (rule.occurrences options).head? := by
  rw [OptionRule.occurrences, List.head?_filter]
  exact congrArg (List.find? · options) (funext (fallsUnder_eq_matches named declared))

theorem repetitions_concat (named : level.WellNamed) {rule : OptionRule}
    (declared : rule ∈ level.options) (earlier : List OptionUse) (option : OptionUse) :
    rule.repetitions (rule.occurrences earlier ++ [option]) =
      rule.repetitions (rule.occurrences earlier) ++ level.repetition rule earlier option := by
  unfold repetition
  rw [find?_fallsUnder named declared]
  cases rule.occurrences earlier with
  | nil => cases rule.repeatable <;> simp [OptionRule.repetitions]
  | cons first others =>
      cases once : rule.repeatable <;> simp [OptionRule.repetitions, once]

theorem valueMistakes_singleton (rule : OptionRule) (option : OptionUse) :
    rule.valueMistakes [option] = valueFault rule option := by
  unfold OptionRule.valueMistakes valueFault
  cases rule.expectsValue <;> cases value : option.value? <;> simp [value]

theorem mistakes_concat (named : level.WellNamed) {rule : OptionRule}
    (declared : rule ∈ level.options) {option : OptionUse}
    (accepted : rule.matches option = true) (earlier : List OptionUse) :
    (rule.mistakes (rule.occurrences (earlier ++ [option]))).Perm
      (rule.mistakes (rule.occurrences earlier) ++
        (level.repetition rule earlier option ++ valueFault rule option)) := by
  rw [OptionRule.occurrences_concat_of_matches accepted, OptionRule.mistakes,
    repetitions_concat named declared, OptionRule.valueMistakes_append, valueMistakes_singleton,
    OptionRule.mistakes]
  simp only [List.append_assoc]
  exact .append_left _ (List.perm_append_comm_assoc ..)

/-! ## All options -/

theorem unruled_concat_of_some {option : OptionUse} {rule : OptionRule}
    (found : level.option? option.name option.dashes = some rule) (earlier : List OptionUse) :
    level.unruled (earlier ++ [option]) = level.unruled earlier := by
  obtain ⟨declared, accepted⟩ := accepts_of_option? found
  have ruled : level.options.any (·.matches option) = true :=
    List.any_eq_true.2 ⟨rule, declared, accepted⟩
  simp [unruled, ruled]

theorem not_matches_of_option?_eq_none (named : level.WellNamed) {option : OptionUse}
    (absent : level.option? option.name option.dashes = none) :
    ∀ rule ∈ level.options, rule.matches option = false := by
  intro rule declared
  by_contra accepted
  rw [Bool.not_eq_false] at accepted
  have found := (option?_eq_some_iff named option.name option.dashes rule).2 ⟨declared, accepted⟩
  rw [absent] at found
  cases found

theorem optionFaults_perm (named : level.WellNamed) (options : List OptionUse) :
    (level.optionFaults [] options).Perm
      ((level.unruled options).map (fun option => .unknownOption option.name option.span) ++
        level.options.flatMap fun rule => rule.mistakes (rule.occurrences options)) := by
  -- an option is compared with those before it, so the last one is the one to take off
  induction options using List.reverseRecOn with
  | nil =>
      have none : (level.options.flatMap fun rule =>
          rule.mistakes (rule.occurrences [])) = [] :=
        List.flatMap_eq_nil_iff.2 fun rule _ => by
          simp [OptionRule.occurrences, OptionRule.mistakes, OptionRule.repetitions,
            OptionRule.valueMistakes]
      rw [none]
      exact .nil
  | append_singleton earlier option ih =>
      rw [optionFaults_append, List.nil_append]
      refine (ih.append_right _).trans ?_
      rw [List.append_assoc]
      cases found : level.option? option.name option.dashes with
      | none =>
          have refused := not_matches_of_option?_eq_none named found
          have unruled : level.unruled (earlier ++ [option]) =
              level.unruled earlier ++ [option] := by
            simpa [unruled] using refused
          have kept : (level.options.flatMap fun rule =>
              rule.mistakes (rule.occurrences (earlier ++ [option]))) =
              level.options.flatMap fun rule => rule.mistakes (rule.occurrences earlier) :=
            flatMap_filter_concat_of_refused OptionRule.matches OptionRule.mistakes earlier refused
          rw [unruled, kept, List.map_append, List.append_assoc]
          refine .append_left _ (List.perm_append_comm.trans ?_)
          simp [optionFaults, found]
      | some rule =>
          obtain ⟨declared, accepted⟩ := accepts_of_option? found
          rw [unruled_concat_of_some found]
          refine .append_left _ (List.Perm.symm ?_)
          simp only [optionFaults, found, List.append_nil]
          exact flatMap_filter_concat_perm OptionRule.matches OptionRule.mistakes
            (nodup_options named) declared
            (fun other inside too => eq_of_accepts named inside declared too accepted)
            (mistakes_concat named declared accepted earlier)

theorem lackingOptions_map_eq (named : level.WellNamed) (scope : Span)
    (options : List OptionUse) :
    (level.lackingOptions options).map (fun rule => .missingOption rule.name scope) =
      level.options.flatMap fun rule => rule.absence scope (rule.occurrences options) := by
  have lacks : level.lackingOptions options =
      level.options.filter fun rule => rule.required && (rule.occurrences options).isEmpty := by
    refine List.filter_congr fun rule declared => ?_
    have absent : (!options.any (level.fallsUnder rule)) =
        (rule.occurrences options).isEmpty := by
      rw [Bool.eq_iff_iff]
      simp [OptionRule.occurrences, List.isEmpty_iff, fallsUnder_eq_matches named declared]
    rw [absent]
  rw [lacks, map_filter_eq_flatMap]
  rfl

/-- The diagnostics of a check among options are the complaints of the rules about their
occurrences, and of options that fall under no rule. -/
theorem checkOptions_perm_complaints {grammar : Grammar} {level : Level}
    (declares : grammar.level.Declares level) (scope : Span) (options : List OptionUse) :
    (level.checkOptions scope options).Perm (level.optionComplaints scope options) := by
  have named := grammar.wellNamed_of_declares declares
  calc level.checkOptions scope options
    _ = level.optionFaults [] options ++
        level.options.flatMap fun rule => rule.absence scope (rule.occurrences options) := by
      rw [checkOptions, lackingOptions_map_eq named]
    List.Perm _ (_ ++ _) := (optionFaults_perm named options).append_right _
    List.Perm _ _ := by
      rw [List.append_assoc, optionComplaints]
      exact .append_left _ (List.flatMap_append_perm ..)

theorem checkOptions_perm_complaints_of_mixed_spellings :
    let name : OptionRule := ⟨"name", some 'n', false, true, false⟩
    let verbose : OptionRule := ⟨"verbose", some 'v', false, false, true⟩
    let out : OptionRule := ⟨"out", none, true, true, false⟩
    let build : CommandRule := ⟨"build", .zeroOrOne, .zero, [], [name, verbose, out]⟩
    let top : Level := ⟨.zeroOrMultiple, [build], []⟩
    let value (position length : Nat) : Value := ⟨⟨"x", false⟩, ⟨position, length⟩⟩
    let options : List OptionUse :=
      [⟨"n", ⟨6, 2⟩, .short, none⟩, ⟨"name", ⟨9, 8⟩, .long, some (value 16 1)⟩,
        ⟨"v", ⟨18, 2⟩, .short, none⟩, ⟨"n", ⟨21, 3⟩, .long, none⟩,
        ⟨"verbose", ⟨25, 11⟩, .long, some (value 35 1)⟩, ⟨"n", ⟨37, 2⟩, .short, none⟩]
    ∃ faultless : top.fault? = none, (Grammar.mk top faultless).level.Declares build.level ∧
      (build.level.checkOptions ⟨0, 39⟩ options).Perm
        [.unknownOption "n" ⟨21, 3⟩, .duplicateOption "name" ⟨9, 8⟩ ⟨6, 2⟩,
          .duplicateOption "name" ⟨37, 2⟩ ⟨6, 2⟩, .missingOptionValue "name" ⟨6, 2⟩,
          .missingOptionValue "name" ⟨37, 2⟩, .unexpectedOptionValue "verbose" ⟨35, 1⟩,
          .missingOption "out" ⟨0, 39⟩] := by
  intro name verbose out build top value options
  have faultless : top.fault? = none := by decide
  have declares : (Grammar.mk top faultless).level.Declares build.level :=
    .down (List.mem_singleton.2 rfl) (.here _)
  exact ⟨faultless, declares, checkOptions_perm_complaints declares ⟨0, 39⟩ options⟩

end Level

end CommandLine
