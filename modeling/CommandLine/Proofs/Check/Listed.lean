import CommandLine.Proofs.Check.Distinct
import CommandLine.Proofs.Check.Sorted
import Mathlib.Control.Monad.Basic

/-!
# The list of diagnostics

A check lists its diagnostics by their places, and keeps the order in which they were found
where the place is the same.  For a parsed line these places are parts of the source, and no
diagnostic is listed twice: `check_listed_of_parse`.
-/

set_option autoImplicit false

namespace CommandLine

/-- The diagnostics of a check: by their places and otherwise as they were found, none of them
twice, all of them placed in the source, and those of a command inside it. -/
structure Listed (source : String) (grammar : Grammar) (tree : Tree) : Prop where
  order : SortedStably (fun diagnostic => diagnostic.span.position)
    (grammar.level.violations tree.span tree.commands tree.options) (check grammar tree)
  distinct : ((check grammar tree).map Diagnostic.key).Nodup
  placed : ∀ diagnostic ∈ check grammar tree, diagnostic.Placed source
  inside : ∀ command, .command command ∈ (Node.root tree).walk →
    ∀ (level : Level) (earlier : List CommandUse),
      ∀ diagnostic ∈ level.checkCommand earlier command,
        command.span.contains diagnostic.span = true

theorem Tree.Located.listed {source : String} {tree : Tree} (located : tree.Located source)
    (grammar : Grammar) : Listed source grammar tree := by
  have parts := PartsLocated.of_tree located
  have order : SortedStably (fun diagnostic => diagnostic.span.position)
      (grammar.level.violations tree.span tree.commands tree.options) (check grammar tree) :=
    sortedStably_mergeSort ..
  have differ := Level.violations_differ
    (fun _ reached => grammar.wellNamed_of_reaches reached) parts
  refine ⟨order, ?_, ?_, ?_⟩
  · rw [(order.perm.map _).nodup_iff]
    exact List.pairwise_map.2 differ
  · intro diagnostic reported
    exact Level.placed_of_violation parts (order.perm.subset reported)
  · intro command visited level earlier diagnostic reported
    have root : (Node.root tree).Located source := located
    exact (Level.marks_inside_of_checkCommand (root.of_mem_walk visited) reported).2

/-- A check of a parsed line lists its diagnostics by their places in the source. -/
theorem check_listed_of_parse {settings : Settings} {source : String} {tree : Tree}
    (parsed : Tree.parse settings source = .ok tree) (grammar : Grammar) :
    Listed source grammar tree :=
  (Tree.located_of_parse parsed).listed grammar

theorem check_listed_of_repeated_command :
    let conf : OptionRule := ⟨"conf", some 'c', true, true, false⟩
    let verbose : OptionRule := ⟨"verbose", some 'v', false, false, false⟩
    let number : OptionRule := ⟨"number", some 'n', false, true, false⟩
    let init : CommandRule := ⟨"init", .one, .zero, [], []⟩
    let run : CommandRule := ⟨"run", .zeroOrOne, .zero, [], [number]⟩
    let level : Level := ⟨.oneOrMultiple, [init, run], [conf, verbose]⟩
    let source := "ö -v --verbose run -n run"
    let tree : Tree := ⟨source, ⟨⟨"ö", false⟩, ⟨0, 2⟩⟩,
      [⟨"run", ⟨16, 3⟩, [], [⟨"n", ⟨20, 2⟩, .short, none⟩]⟩, ⟨"run", ⟨23, 3⟩, [], []⟩],
      [⟨"v", ⟨3, 2⟩, .short, none⟩, ⟨"verbose", ⟨6, 9⟩, .long, none⟩]⟩
    ∃ grammar, Grammar.ofLevel level = .ok grammar ∧
      Tree.parse ⟨'"', .attached, 1⟩ source = .ok tree ∧
      check grammar tree =
        [.missingCommand (some "init") ⟨0, 26⟩, .missingOption "conf" ⟨0, 26⟩,
          .duplicateOption "verbose" ⟨6, 9⟩ ⟨3, 2⟩, .missingOptionValue "number" ⟨20, 2⟩,
          .duplicateCommand "run" ⟨23, 3⟩ ⟨16, 6⟩] ∧
      Listed source grammar tree := by
  intro conf verbose number init run level source tree
  have faultless : level.fault? = none := by decide
  have parsed : Tree.parse ⟨'"', .attached, 1⟩ source = .ok tree := by
    rw [Tree.parse_eq_ofLexed]
    decide +kernel
  refine ⟨⟨level, faultless⟩, (Grammar.ofLevel_eq_ok_iff ..).2 rfl, parsed, ?_,
    check_listed_of_parse parsed _⟩
  rw [check_eq_insertionSort]
  decide +kernel

end CommandLine
