import CommandLine.Proofs.Tree.Descent
import CommandLine.Proofs.Tree.Walk

/-!
# Parsed trees

A source has a tree if and only if its first token is a program name, every other
token is in place, and no command lies too deep: `parse_eq_ok_iff`.  The parts of the
tree then hold the tokens of the source one after the other (`lex_of_parse`), so the tree
is located where its tokens are (`located_of_parse`).
-/

set_option autoImplicit false

namespace CommandLine

theorem Ahead.settle_eq_ok_iff {α : Type} (limit depth : Nat) (ahead : Ahead) (result found : α) :
    ahead.settle limit depth result = .ok found ↔
      Item.tooDeep? limit depth ahead.items = none ∧ ahead.stop? = none ∧ result = found := by
  unfold settle
  split
  · rename_i deep
    simp [deep]
  · rename_i stopped
    simp [stopped]
  · rename_i shallow complete
    simp [shallow, complete]

theorem Lexed.ahead_eq_iff (style : ValueStyle) (lexed : Lexed) (items : List Item) :
    lexed.ahead style = ⟨items, none⟩ ↔
      Item.ofTokens style lexed.tokens = (items, none) ∧ lexed.error? = none := by
  simp [ahead, Prod.ext_iff, and_assoc]

namespace Tree

theorem parse_eq_ok_iff (settings : Settings) (source : String) (tree : Tree) :
    parse settings source = .ok tree ↔
      tree.source = source ∧ ∃ tokens items, lex settings.quote source =
          ⟨⟨.program tree.program.literal, tree.program.span⟩ :: tokens, none⟩ ∧
        Item.ofTokens settings.valueStyle tokens = (items, none) ∧
        Item.tooDeep? settings.maxDepth 1 items = none ∧
        Item.assemble items = (tree.options, tree.commands) := by
  rw [parse_eq_ofLexed]
  constructor
  · intro parsed
    unfold ofLexed at parsed
    split at parsed
    · cases parsed
    · cases parsed
    · rename_i literal span rest error? lexed
      obtain ⟨shallow, complete, rfl⟩ := (Ahead.settle_eq_ok_iff ..).1 parsed
      obtain ⟨read, rfl⟩ := (Lexed.ahead_eq_iff settings.valueStyle ⟨rest, error?⟩
        ((⟨rest, error?⟩ : Lexed).ahead settings.valueStyle).items).1 (by rw [← complete])
      exact ⟨rfl, rest, _, lexed, read, shallow, rfl⟩
    · cases parsed
  · intro ⟨rfl, tokens, items, lexed, read, shallow, assembled⟩
    have ahead := (Lexed.ahead_eq_iff settings.valueStyle ⟨tokens, none⟩ items).2 ⟨read, rfl⟩
    rw [lexed]
    dsimp only [ofLexed]
    rw [Ahead.settle_eq_ok_iff, ahead]
    exact ⟨shallow, rfl, by rw [assembled]⟩

section Parsed

variable {settings : Settings} {source : String} {tree : Tree}

/-- Another limit leaves a source its tree unless that is too deep. -/
theorem exists_parse_iff_depth_le (parsed : parse settings source = .ok tree) (limit : Nat) :
    (∃ other, parse { settings with maxDepth := limit } source = .ok other) ↔
      tree.depth ≤ limit := by
  obtain ⟨same, rest, items, lexed, read, -, assembled⟩ := (parse_eq_ok_iff ..).1 parsed
  have shallow : Item.tooDeep? limit 1 items = none ↔ tree.depth ≤ limit := by
    rw [Item.tooDeep?_one_eq_none_iff, assembled, depth]
  rw [← shallow]
  constructor
  · rintro ⟨other, otherParsed⟩
    obtain ⟨-, otherRest, otherItems, otherLexed, otherRead, within, -⟩ :=
      (parse_eq_ok_iff ..).1 otherParsed
    obtain ⟨-, rfl⟩ := List.cons.inj (Lexed.mk.inj (otherLexed.symm.trans lexed)).1
    obtain rfl := (Prod.mk.inj (otherRead.symm.trans read)).1
    exact within
  · intro within
    exact ⟨tree, (parse_eq_ok_iff ..).2 ⟨same, rest, items, lexed, read, within, assembled⟩⟩

theorem lex_of_parse (parsed : parse settings source = .ok tree) :
    lex settings.quote source = ⟨tree.tokens, none⟩ := by
  obtain ⟨same, tokens, items, lexed, read, -, assembled⟩ := (parse_eq_ok_iff ..).1 parsed
  obtain ⟨rest, laidOut, -⟩ := lex_laidOut settings.quote source
  rw [lexed] at laidOut
  have written := Item.tokens_ofTokens settings.valueStyle laidOut.head_and_tail.2 (by rw [read])
  have flat := Item.items_assemble items
  rw [read] at written
  rw [assembled] at flat
  rw [lexed, Tree.tokens, same, flat, written]

theorem located_of_parse (parsed : parse settings source = .ok tree) : tree.Located source := by
  obtain ⟨same, -⟩ := (parse_eq_ok_iff ..).1 parsed
  obtain ⟨rest, laidOut, -⟩ := lex_laidOut settings.quote source
  rw [lex_of_parse parsed, Tree.tokens, same] at laidOut
  have stand := List.forall_mem_cons.1 laidOut.standsIn
  have ordered := List.pairwise_cons.1 laidOut.ordered
  have items : ItemsLocated source (Item.ofParts tree.commands tree.options) :=
    itemsLocated_of_tokens stand.2 ordered.2
  refine ⟨same, stand.1.marks, items, ?_⟩
  intro item member
  obtain ⟨⟨first, firstOf, start⟩, -⟩ := (items.each item member).tokens_ends
  rw [← start]
  apply ordered.1
  exact List.mem_flatMap.2 ⟨item, member, List.mem_of_head? firstOf⟩

end Parsed

end Tree

end CommandLine
