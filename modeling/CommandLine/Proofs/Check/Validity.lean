import CommandLine.Proofs.Check.Commands
import CommandLine.Proofs.Check.Options
import CommandLine.Proofs.Rule.Reach

/-!
# Valid trees

A check of a tree against a grammar finds nothing exactly when the tree conforms
to the grammar, level by level: `check_silent_iff_conforms`.  The names of a
grammar are distinct on every level that the check can reach, which is all that
the proof asks of the rules.
-/

set_option autoImplicit false

namespace CommandLine

namespace Level

/-- One level of a check, from what is known of the levels below it. -/
theorem violations_eq_nil_iff_of_below {level : Level} (named : level.WellNamed) (scope : Span)
    (commands : List CommandUse) (options : List OptionUse)
    (below : ∀ command ∈ commands, ∀ rule, level.permitted? command.name = some rule →
      (rule.level.violations command.span command.commands command.options = [] ↔
        rule.level.Conforms command.commands command.options)) :
    level.violations scope commands options = [] ↔ level.Conforms commands options := by
  rw [violations, List.append_eq_nil_iff, List.append_eq_nil_iff, checkEach_eq_nil_iff named,
    checkOptions_eq_nil_iff named, conforms_iff]
  constructor
  · intro ⟨⟨⟨pass, silent⟩, totals⟩, optionsConform⟩
    have commandsConform := (passing_totals_iff_conform named scope commands).1 ⟨pass, totals⟩
    refine ⟨commandsConform, optionsConform, fun command member rule declared bears => ?_⟩
    obtain ⟨other, permit⟩ := pass.permitted command member
    obtain rfl := eq_of_permitted? named permit declared bears
    exact (below command member other permit).1 (silent command member other permit)
  · intro ⟨commandsConform, optionsConform, conform⟩
    obtain ⟨pass, totals⟩ := (passing_totals_iff_conform named scope commands).2 commandsConform
    refine ⟨⟨⟨pass, fun command member rule permit => ?_⟩, totals⟩, optionsConform⟩
    obtain ⟨declared, same, -⟩ := (permitted?_eq_some_iff named ..).1 permit
    exact (below command member rule permit).2
      (conform command member rule declared (beq_iff_eq.2 same.symm))

theorem violations_below_eq_nil_iff (command : CommandUse) :
    ∀ level : Level, (∀ target, level.Reaches target → target.WellNamed) → ∀ scope : Span,
      (level.violations scope command.commands command.options = [] ↔
        level.Conforms command.commands command.options) := by
  induction command using CommandUse.induction with
  | step name nameSpan commands options ih =>
      intro level named scope
      apply violations_eq_nil_iff_of_below (named level (.here level))
      intro command member rule permit
      obtain ⟨declared, -, -, occurs⟩ :=
        (permitted?_eq_some_iff (named level (.here level)) ..).1 permit
      exact ih command member rule.level
        (fun target reached => named target (.down declared occurs reached)) command.span

theorem violations_eq_nil_iff {level : Level}
    (named : ∀ target, level.Reaches target → target.WellNamed) (scope : Span)
    (commands : List CommandUse) (options : List OptionUse) :
    level.violations scope commands options = [] ↔ level.Conforms commands options := by
  apply violations_eq_nil_iff_of_below (named level (.here level))
  intro command _ rule permit
  obtain ⟨declared, -, -, occurs⟩ :=
    (permitted?_eq_some_iff (named level (.here level)) ..).1 permit
  exact violations_below_eq_nil_iff command rule.level
    (fun target reached => named target (.down declared occurs reached)) command.span

end Level

theorem check_eq_nil_iff (grammar : Grammar) (tree : Tree) :
    check grammar tree = [] ↔ grammar.level.Conforms tree.commands tree.options := by
  rw [← Level.violations_eq_nil_iff (fun _ reached => grammar.wellNamed_of_reaches reached)
    tree.span tree.commands tree.options]
  rw [check, ← List.length_eq_zero_iff, List.length_mergeSort, List.length_eq_zero_iff]

theorem validate_eq_ok_iff (settings : Settings) (grammar : Grammar) (source : String)
    (tree : Tree) :
    validate settings grammar source = .ok tree ↔
      Tree.parse settings source = .ok tree ∧ check grammar tree = [] := by
  unfold validate
  cases Tree.parse settings source with
  | error error => simp
  | ok found =>
      by_cases silent : check grammar found = []
      · have accepted : outcome source (check grammar found) = .ok () := by
          simp [outcome, silent]
        simp only [accepted, Except.ok.injEq]
        constructor
        · intro same
          exact ⟨same, same ▸ silent⟩
        · intro same
          exact same.1
      · have refused : outcome source (check grammar found) =
            .error (.validation source (check grammar found)) := by
          simp [outcome, silent]
        simp only [refused, reduceCtorEq, Except.ok.injEq, false_iff, not_and]
        intro same
        exact same ▸ silent

/-- A check is silent exactly on the trees that conform, and a source is valid
exactly when its tree does. -/
theorem check_silent_iff_conforms (grammar : Grammar) :
    (∀ tree, check grammar tree = [] ↔ grammar.level.Conforms tree.commands tree.options) ∧
      ∀ settings source tree, validate settings grammar source = .ok tree ↔
        Tree.parse settings source = .ok tree ∧
          grammar.level.Conforms tree.commands tree.options := by
  refine ⟨check_eq_nil_iff grammar, fun settings source tree => ?_⟩
  rw [validate_eq_ok_iff, check_eq_nil_iff]

end CommandLine
