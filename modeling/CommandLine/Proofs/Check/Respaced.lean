import CommandLine.Proofs.Check.Moved
import CommandLine.Proofs.Check.Sorted
import CommandLine.Proofs.Token.Tokenize
import CommandLine.Proofs.Tree.Ranked
import Mathlib.Control.Monad.Basic

/-!
# Respaced sources

Sources whose tokens are the same up to spans are read and checked alike
(`parse_and_check_respaced`).  Diagnostics are sorted by where they start, so it is the
order of these places that has to be the same.  It is: every diagnostic starts where a part
of the line does, or at the start of the line, and ranks keep the order of these.
-/

set_option autoImplicit false

namespace CommandLine

/-- What a diagnostic finds, but for the places. -/
def Diagnostic.finding (diagnostic : Diagnostic) : Violation × Option String :=
  (diagnostic.violation, diagnostic.subject?)

/-- A diagnostic starts where a part does, or with the owner of the level. -/
theorem Level.start_of_violation (level : Level) {items : List Item} {options : List OptionUse}
    {commands : List CommandUse} (parts : Item.assemble items = (options, commands)) (scope : Span)
    {diagnostic : Diagnostic} (reported : diagnostic ∈ level.violations scope commands options) :
    diagnostic.span.position = scope.position ∨
      diagnostic.span.position ∈ items.flatMap Item.starts := by
  -- two functions that differ there and nowhere else move all parts alike
  by_contra elsewhere
  rw [not_or] at elsewhere
  obtain ⟨offScope, offItems⟩ := elsewhere
  let before (offset : Nat) : Nat := if offset < diagnostic.span.position then 0 else 1
  let upTo (offset : Nat) : Nat := if offset ≤ diagnostic.span.position then 0 else 1
  have beforeRises : Monotone before := by
    intro offset later order
    simp only [before]
    split <;> split <;> omega
  have upToRises : Monotone upTo := by
    intro offset later order
    simp only [upTo]
    split <;> split <;> omega
  have agree : ∀ offset, offset ≠ diagnostic.span.position → before offset = upTo offset := by
    intro offset apart
    simp only [before, upTo]
    split <;> split <;> omega
  have items : items.map (Item.moved before) = items.map (Item.moved upTo) := by
    refine Item.map_moved_eq rfl (List.map_congr_left fun offset member => agree offset ?_)
    rintro rfl
    exact offItems member
  have moved := congrArg Item.assemble items
  rw [Item.assemble_map_moved, Item.assemble_map_moved, parts] at moved
  obtain ⟨sameOptions, sameCommands⟩ := Prod.mk.inj moved
  have place : (scope.moved before).moved id = scope.moved upTo :=
    congrArg Span.point (agree _ (Ne.symm offScope))
  have found := level.violations_moved beforeRises (scope.moved_id_moved) commands options
  rw [sameOptions, sameCommands, level.violations_moved upToRises place] at found
  have same := congrArg (fun diagnostic => diagnostic.span.position)
    (List.map_inj_left.1 found diagnostic reported)
  simp [Diagnostic.moved, Span.moved, Span.point, before, upTo] at same

/-- Moving diagnostics before or after they are sorted makes no difference if that keeps
their order. -/
theorem check_moved (grammar : Grammar) (tree : Tree) {move : Nat → Nat}
    (keeps : ∀ first ∈ grammar.level.violations tree.span tree.commands tree.options,
      ∀ second ∈ grammar.level.violations tree.span tree.commands tree.options,
        (first.span.position ≤ second.span.position ↔
          move first.span.position ≤ move second.span.position)) :
    (check grammar tree).map (Diagnostic.moved move) =
      ((grammar.level.violations tree.span tree.commands tree.options).map
        (Diagnostic.moved move)).mergeSort
          fun diagnostic next => diagnostic.span.position ≤ next.span.position := by
  refine List.map_mergeSort fun first firstIn second secondIn => ?_
  exact decide_eq_decide.2 (keeps first firstIn second secondIn)

namespace Tree

variable {source : String} {tree : Tree} {items : List Item}

/-- Ranks of a located tree keep the order of its diagnostics. -/
theorem Located.check_ranked (located : tree.Located source)
    (parts : Item.assemble items = (tree.options, tree.commands)) (grammar : Grammar) :
    (check grammar tree).map (Diagnostic.moved (rank (items.flatMap Item.starts))) =
      ((grammar.level.violations (.point 0)
          (tree.commands.map (CommandUse.moved (rank (items.flatMap Item.starts))))
          (tree.options.map (OptionUse.moved (rank (items.flatMap Item.starts))))).map
        (Diagnostic.moved id)).mergeSort
          fun diagnostic next => diagnostic.span.position ≤ next.span.position := by
  have flat := Item.items_assemble items
  rw [parts] at flat
  have positive : ∀ start ∈ items.flatMap Item.starts, 0 < start := by
    intro start member
    obtain ⟨item, own, inside⟩ := List.mem_flatMap.1 member
    rw [← flat] at own
    have behind := located.order item own
    have after := ((located.items.each item own).starts.2 start inside).1
    have program := located.program.position_lt_stop
    omega
  have place : (Span.point 0).moved id =
      tree.span.moved (rank (items.flatMap Item.starts)) := by
    exact congrArg Span.point (rank_eq_zero positive).symm
  rw [grammar.level.violations_moved (monotone_rank _) place]
  apply check_moved
  intro first firstIn second secondIn
  constructor
  · exact fun order => monotone_rank _ order
  · intro ranked
    by_contra reversed
    -- what lies behind something is not the start of the line, so it is a part
    have order : second.span.position < first.span.position := by omega
    rcases grammar.level.start_of_violation parts tree.span firstIn with start | member
    · rw [start] at order
      exact absurd order (Nat.not_lt_zero _)
    · have strictly := rank_lt_rank order member
      omega

theorem Located.map_finding_check_eq (located : tree.Located source)
    (parts : Item.assemble items = (tree.options, tree.commands)) {other : String}
    {otherTree : Tree} {others : List Item} (otherLocated : otherTree.Located other)
    (otherParts : Item.assemble others = (otherTree.options, otherTree.commands))
    (same : items.map Item.unplaced = others.map Item.unplaced) (grammar : Grammar) :
    (check grammar tree).map Diagnostic.finding =
      (check grammar otherTree).map Diagnostic.finding := by
  have flat := Item.items_assemble items
  have otherFlat := Item.items_assemble others
  rw [parts] at flat
  rw [otherParts] at otherFlat
  have ranked := (flat ▸ located.items).map_moved_rank_eq (otherFlat ▸ otherLocated.items) same
  have assembled := congrArg Item.assemble ranked
  rw [Item.assemble_map_moved, Item.assemble_map_moved, parts, otherParts] at assembled
  obtain ⟨sameOptions, sameCommands⟩ := Prod.mk.inj assembled
  have sorted := located.check_ranked parts grammar
  rw [sameOptions, sameCommands, ← otherLocated.check_ranked otherParts grammar] at sorted
  have findings := congrArg (List.map Diagnostic.finding) sorted
  rwa [List.map_map, List.map_map] at findings

end Tree

/-- Sources with the same tokens up to spans have the same tree or the same error up to
spans, and a check of the trees finds the same in the same order. -/
theorem parse_and_check_respaced {settings : Settings} {source other : String}
    {tokens others : List Token} (cut : tokenize settings.quote source = .ok tokens)
    (otherCut : tokenize settings.quote other = .ok others)
    (same : tokens.map (fun token => token.kind.unplaced) =
      others.map fun token => token.kind.unplaced) :
    (∃ tree otherTree, Tree.parse settings source = .ok tree ∧
      Tree.parse settings other = .ok otherTree ∧ tree.unplaced = otherTree.unplaced ∧
      ∀ grammar, (check grammar tree).map Diagnostic.finding =
        (check grammar otherTree).map Diagnostic.finding) ∨
    ∃ error otherError, Tree.parse settings source = .error error ∧
      Tree.parse settings other = .error otherError ∧ error.unplaced = otherError.unplaced := by
  have whole := (Lexed.complete_eq_ok_iff ..).1 cut
  have otherWhole := (Lexed.complete_eq_ok_iff ..).1 otherCut
  refine (cases_of_unplacedResult_eq (unplacedResult_parse_eq whole otherWhole same)).imp ?_ id
  rintro ⟨tree, otherTree, parsed, otherParsed, alike⟩
  refine ⟨tree, otherTree, parsed, otherParsed, alike, fun grammar => ?_⟩
  obtain ⟨-, rest, items, lexed, read, -, parts⟩ := (Tree.parse_eq_ok_iff ..).1 parsed
  obtain ⟨-, otherRest, otherItems, otherLexed, otherRead, -, otherParts⟩ :=
    (Tree.parse_eq_ok_iff ..).1 otherParsed
  rw [whole] at lexed
  rw [otherWhole] at otherLexed
  obtain ⟨rfl, -⟩ := Lexed.mk.inj lexed
  obtain ⟨rfl, -⟩ := Lexed.mk.inj otherLexed
  have sameItems : (Item.ofTokens settings.valueStyle rest).1.map Item.unplaced =
      (Item.ofTokens settings.valueStyle otherRest).1.map Item.unplaced :=
    Item.map_unplaced_eq_of_kinds (List.cons.inj same).2
  rw [read, otherRead] at sameItems
  exact (Tree.located_of_parse parsed).map_finding_check_eq parts
    (Tree.located_of_parse otherParsed) otherParts sameItems grammar

theorem parse_and_check_respaced_of_glued_line :
    let settings : Settings := ⟨'"', .nextToken, 1⟩
    let source := "app -v \"a b\" run --n=ö -m"
    let other := "\tapp  -v \"a b\"run   --n=ö\n-m "
    let tokens : List Token := [⟨.program ⟨"app", false⟩, ⟨0, 3⟩⟩,
      ⟨.option ⟨"v", ⟨4, 2⟩, .short, none⟩, ⟨4, 2⟩⟩, ⟨.value ⟨"a b", true⟩, ⟨7, 5⟩⟩,
      ⟨.command "run", ⟨13, 3⟩⟩,
      ⟨.option ⟨"n", ⟨17, 3⟩, .long, some ⟨⟨"ö", false⟩, ⟨21, 2⟩⟩⟩, ⟨17, 6⟩⟩,
      ⟨.option ⟨"m", ⟨24, 2⟩, .short, none⟩, ⟨24, 2⟩⟩]
    let others : List Token := [⟨.program ⟨"app", false⟩, ⟨1, 3⟩⟩,
      ⟨.option ⟨"v", ⟨6, 2⟩, .short, none⟩, ⟨6, 2⟩⟩, ⟨.value ⟨"a b", true⟩, ⟨9, 5⟩⟩,
      ⟨.command "run", ⟨14, 3⟩⟩,
      ⟨.option ⟨"n", ⟨20, 3⟩, .long, some ⟨⟨"ö", false⟩, ⟨24, 2⟩⟩⟩, ⟨20, 6⟩⟩,
      ⟨.option ⟨"m", ⟨27, 2⟩, .short, none⟩, ⟨27, 2⟩⟩]
    let tree : Tree := ⟨source, ⟨⟨"app", false⟩, ⟨0, 3⟩⟩,
      [⟨"run", ⟨13, 3⟩, [],
        [⟨"n", ⟨17, 3⟩, .long, some ⟨⟨"ö", false⟩, ⟨21, 2⟩⟩⟩, ⟨"m", ⟨24, 2⟩, .short, none⟩]⟩],
      [⟨"v", ⟨4, 2⟩, .short, some ⟨⟨"a b", true⟩, ⟨7, 5⟩⟩⟩]⟩
    let diagnostics : List Diagnostic :=
      [.missingOption "conf" ⟨0, 26⟩, .unknownOption "v" ⟨4, 8⟩, .unknownOption "m" ⟨24, 2⟩]
    tokenize settings.quote source = .ok tokens ∧ tokenize settings.quote other = .ok others ∧
      tokens.map (fun token => token.kind.unplaced) =
        others.map (fun token => token.kind.unplaced) ∧
      Tree.parse settings source = .ok tree ∧
      ∃ otherTree grammar, Tree.parse settings other = .ok otherTree ∧
        tree.unplaced = otherTree.unplaced ∧ check grammar tree = diagnostics ∧
        (check grammar otherTree).map Diagnostic.finding =
          [(.missingOption, some "conf"), (.unknownOption, some "v"),
            (.unknownOption, some "m")] := by
  intro settings source other tokens others tree diagnostics
  let level : Level := ⟨.zeroOrMultiple,
    [⟨"run", .one, .zero, [], [⟨"n", none, false, true, false⟩]⟩],
    [⟨"conf", none, true, false, false⟩]⟩
  have faultless : level.fault? = none := by decide
  have cut : tokenize settings.quote source = .ok tokens := by decide +kernel
  have otherCut : tokenize settings.quote other = .ok others := by decide +kernel
  have same : tokens.map (fun token => token.kind.unplaced) =
      others.map fun token => token.kind.unplaced := by decide
  have parsed : Tree.parse settings source = .ok tree := by
    rw [Tree.parse_eq_ofLexed]
    decide +kernel
  have checked : check ⟨level, faultless⟩ tree = diagnostics := by
    rw [check_eq_insertionSort]
    decide +kernel
  refine ⟨cut, otherCut, same, parsed, ?_⟩
  rcases parse_and_check_respaced cut otherCut same with
    ⟨first, otherTree, firstParsed, otherParsed, alike, findings⟩ | ⟨error, -, refused, -, -⟩
  · obtain rfl : tree = first := Except.ok.inj (parsed.symm.trans firstParsed)
    have found := findings ⟨level, faultless⟩
    rw [checked] at found
    exact ⟨otherTree, ⟨level, faultless⟩, otherParsed, alike, checked, found.symm⟩
  · rw [parsed] at refused
    cases refused

end CommandLine
