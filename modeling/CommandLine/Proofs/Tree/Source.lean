import CommandLine.Proofs.Tree.Parse
import Mathlib.Control.Monad.Basic

/-!
# Parsed trees and their sources

A parsed tree keeps all of its source.  A walk over it writes down the tokens of
the source, and every node lies where a reader expects it: it marks a part of the
source, contains its children, and these do not overlap.  A command reaches from
its name to its last token, and no further than it must.
-/

set_option autoImplicit false

namespace CommandLine

open Text (bytes)

/-- The span of a command has just the extent that its parts ask for. -/
structure CommandUse.Extent (source : String) (command : CommandUse) : Prop where
  position : command.span.position = command.nameSpan.position
  first : ((Node.command command).walk.flatMap (Node.tokens source)).head? =
    some ⟨.command command.name, command.nameSpan⟩
  last : ∃ token ∈ ((Node.command command).walk.flatMap (Node.tokens source)).getLast?,
    token.span.stop = command.span.stop
  least : ∀ outer : Span, outer.contains command.span = true ↔
    outer.contains command.nameSpan = true ∧
      ∀ child ∈ (Node.command command).children, outer.contains child.span = true

/-- The span of a node fits its source, its children and its parts. -/
structure Node.Spanned (source : String) (node : Node) : Prop where
  marks : node.span.Marks source
  sliced : ∃ text, node.span.slice? source = some text ∧ node.text source = text
  nested : ∀ child ∈ node.children, node.span.contains child.span = true
  ordered : node.children.Pairwise fun child next =>
    child.span.position < next.span.position ∧ child.span.stop ≤ next.span.position
  command : ∀ given, node = .command given → given.Extent source

/-! ## Commands -/

/-- The last token of some items ends where the farthest of them does. -/
theorem ItemsLocated.last_token {source : String} {items : List Item}
    (located : ItemsLocated source items) (nonempty : items ≠ []) :
    ∃ token ∈ (items.flatMap (Item.tokens source)).getLast?,
      ∀ limit, token.span.stop ≤ limit ↔ ∀ item ∈ items, item.span.stop ≤ limit := by
  obtain ⟨lead, last, same⟩ := (List.eq_nil_or_concat items).resolve_left nonempty
  rw [List.concat_eq_append] at same
  subst same
  have inside : last ∈ lead ++ [last] := by simp
  obtain ⟨-, token, lastOf, stop⟩ := (located.each last inside).tokens_ends
  have lastOf : (last.tokens source).getLast? = some token := lastOf
  refine ⟨token, by simp [lastOf], ?_⟩
  intro limit
  rw [stop]
  constructor
  · intro bound item member
    have farther : item.span.stop ≤ last.span.stop := by
      rcases List.mem_append.1 member with before | same
      · have order := (List.pairwise_append.1 located.ordered).2.2 item before last (by simp)
        exact Nat.le_trans order (Span.position_le_stop _)
      · obtain rfl := List.mem_singleton.1 same
        exact Nat.le_refl _
    exact Nat.le_trans farther bound
  · intro all
    exact all last inside

namespace CommandUse

variable {source : String} {command : CommandUse}

theorem position_eq_of_located (located : ItemsLocated source command.items) :
    command.span.position = command.nameSpan.position := by
  have named := (contains_span_iff command.span command).1 (Span.contains_self _)
  have before := ((Span.contains_iff ..).1 named.1).1
  have behind : command.nameSpan.position ≤ command.span.position := by
    rw [le_position_iff_items]
    intro item member
    rw [items_eq] at member located
    rcases List.mem_cons.1 member with rfl | below
    · exact Nat.le_refl _
    · have order := (List.pairwise_cons.1 located.ordered).1 item below
      exact Nat.le_trans (Span.position_le_stop _) order
  exact Nat.le_antisymm before behind

theorem least_span (outer : Span) (command : CommandUse) :
    outer.contains command.span = true ↔
      outer.contains command.nameSpan = true ∧
        ∀ child ∈ (Node.command command).children, outer.contains child.span = true := by
  rw [contains_span_iff, Node.children, Node.forall_merge_iff]
  rfl

theorem extent (located : ItemsLocated source command.items) : command.Extent source := by
  have written := Node.walk_command_tokens command located
  refine ⟨position_eq_of_located located, ?_, ?_, fun outer => least_span outer command⟩
  · rw [written, items_eq]
    rfl
  · obtain ⟨token, last, farthest⟩ := located.last_token command.items_ne_nil
    rw [written]
    refine ⟨token, last, ?_⟩
    apply Nat.le_antisymm
    · exact (farthest _).2 ((stop_le_iff_items _ command).1 (Nat.le_refl _))
    · exact (stop_le_iff_items _ command).2 ((farthest _).1 (Nat.le_refl _))

end CommandUse

/-! ## Nodes -/

namespace Node

variable {source : String}

theorem Located.marks {node : Node} (located : node.Located source) : node.span.Marks source := by
  cases node with
  | root tree =>
      have program := Tree.Located.program located
      have positive := program.position_lt_stop
      have inside := program.stop_le
      have whole : (Node.root tree).span = ⟨0, bytes source.toList⟩ := by
        rw [span, Tree.span, Tree.Located.sameSource located]
      rw [whole]
      refine ⟨?_, Text.boundary_zero _, ?_⟩
      · show 0 < bytes source.toList
        omega
      · rw [Span.stop, Nat.zero_add]
        exact Text.boundary_bytes _
  | program given => exact located
  | command given => exact CommandUse.marks_of_located located
  | option given => exact OptionUse.Located.marks located
  | value given => exact located

theorem Located.nested {node : Node} (located : node.Located source) :
    ∀ child ∈ node.children, node.span.contains child.span = true := by
  cases node with
  | root tree =>
      intro child member
      have inside := (located.child child member).marks.stop_le
      rw [Span.contains_iff, span, Tree.span, Tree.Located.sameSource located]
      simpa [Span.stop] using inside
  | program given => simp [children]
  | command given => exact ((given.least_span given.span).1 (Span.contains_self _)).2
  | option given =>
      intro child member
      obtain ⟨value, same, rfl⟩ : ∃ value, given.value? = some value ∧ child = .value value := by
        simpa [children, eq_comm] using member
      have covered := Span.cover_contains_right given.nameSpan value.span
      simpa [span, OptionUse.span, same] using covered
  | value given => simp [children]

theorem Located.ordered {node : Node} (located : node.Located source) :
    node.children.Pairwise fun child next =>
      child.span.position < next.span.position ∧ child.span.stop ≤ next.span.position := by
  cases node with
  | root tree =>
      have placed : tree.Located source := located
      rw [children_root placed]
      refine List.pairwise_cons.2 ⟨?_, parts_ordered placed.items⟩
      intro node member
      have behind : tree.program.span.stop ≤ node.span.position := by
        apply le_position_of_items member
        intro item own
        apply placed.order
        rw [← items_parts]
        exact List.mem_flatMap.2 ⟨node, member, own⟩
      exact ⟨Nat.lt_of_lt_of_le placed.program.position_lt_stop behind, behind⟩
  | program given => simp [children]
  | command given =>
      rw [children_command located]
      exact parts_ordered (ItemsLocated.of_command located)
  | option given => cases same : given.value? <;> simp [children, same]
  | value given => simp [children]

theorem Located.spanned {node : Node} (located : node.Located source) : node.Spanned source := by
  obtain ⟨text, sliced⟩ := located.marks.exists_slice?
  refine ⟨located.marks, ⟨text, sliced, ?_⟩, located.nested, located.ordered, ?_⟩
  · rw [Node.text, sliced]
    rfl
  · intro given same
    subst same
    exact CommandUse.extent located

end Node

/-! ## Parsed trees -/

namespace Tree

variable {settings : Settings} {source : String} {tree : Tree}

/-- A walk over a parsed tree writes down the tokens of its source: none is lost,
doubled, moved or changed. -/
theorem tokenize_eq_walk_tokens (parsed : parse settings source = .ok tree) :
    tokenize settings.quote source =
      .ok ((Node.root tree).walk.flatMap (Node.tokens source)) := by
  rw [tokenize, lex_of_parse parsed, Node.walk_root_tokens (located_of_parse parsed)]
  rfl

theorem tokenize_eq_walk_tokens_of_line :
    let source := "app -v \"a b\" run --n=1 -m x"
    let tree : Tree := ⟨source, ⟨⟨"app", false⟩, ⟨0, 3⟩⟩,
      [⟨"run", ⟨13, 3⟩, [], [⟨"n", ⟨17, 3⟩, .long, some ⟨⟨"1", false⟩, ⟨21, 1⟩⟩⟩,
        ⟨"m", ⟨23, 2⟩, .short, some ⟨⟨"x", false⟩, ⟨26, 1⟩⟩⟩]⟩],
      [⟨"v", ⟨4, 2⟩, .short, some ⟨⟨"a b", true⟩, ⟨7, 5⟩⟩⟩]⟩
    parse ⟨'"', .nextToken, 1⟩ source = .ok tree ∧
      tokenize '"' source = .ok ((Node.root tree).walk.flatMap (Node.tokens source)) := by
  intro source tree
  have parsed : parse ⟨'"', .nextToken, 1⟩ source = .ok tree := by
    rw [parse_eq_ofLexed]
    decide +kernel
  exact ⟨parsed, tokenize_eq_walk_tokens parsed⟩

/-- A parsed tree spans its source, and all its nodes have their place in it. -/
theorem spanned_of_parse (parsed : parse settings source = .ok tree) :
    (Node.root tree).span = ⟨0, bytes source.toList⟩ ∧
      ∀ node ∈ (Node.root tree).walk, node.Spanned source := by
  have located := located_of_parse parsed
  constructor
  · rw [Node.span, Tree.span, located.sameSource]
  · intro node visited
    have placed : (Node.root tree).Located source := located
    exact (placed.of_mem_walk visited).spanned

theorem spanned_of_wide_line :
    let source := "ö -v \"ä b\" run --n=1"
    let tree : Tree := ⟨source, ⟨⟨"ö", false⟩, ⟨0, 2⟩⟩,
      [⟨"run", ⟨13, 3⟩, [], [⟨"n", ⟨17, 3⟩, .long, some ⟨⟨"1", false⟩, ⟨21, 1⟩⟩⟩]⟩],
      [⟨"v", ⟨3, 2⟩, .short, some ⟨⟨"ä b", true⟩, ⟨6, 6⟩⟩⟩]⟩
    parse ⟨'"', .nextToken, 1⟩ source = .ok tree ∧
      (Node.root tree).span = ⟨0, bytes source.toList⟩ ∧
      ∀ node ∈ (Node.root tree).walk, node.Spanned source := by
  intro source tree
  have parsed : parse ⟨'"', .nextToken, 1⟩ source = .ok tree := by
    rw [parse_eq_ofLexed]
    decide +kernel
  exact ⟨parsed, spanned_of_parse parsed⟩

end Tree

end CommandLine
