import CommandLine.Proofs.Span
import CommandLine.Proofs.Tree.Item
import CommandLine.Tree.Node

/-!
# Items of a tree

Every tree can be written as items again: a command before its options, and these
before the commands below it.  Assembling is undone by this
(`items_assemble`), and the span of a command is the least one that contains the
spans of its items (`contains_span_iff_items`).  The latter holds of every tree,
whatever the order of its parts.
-/

set_option autoImplicit false

namespace CommandLine

mutual

def CommandUse.items : CommandUse → List Item
  | ⟨name, nameSpan, commands, options⟩ =>
      .command name nameSpan :: (options.map Item.option ++ CommandUse.itemsAll commands)

def CommandUse.itemsAll : List CommandUse → List Item
  | [] => []
  | command :: rest => command.items ++ CommandUse.itemsAll rest

end

def Item.ofParts (commands : List CommandUse) (options : List OptionUse) : List Item :=
  options.map Item.option ++ commands.flatMap CommandUse.items

/-- The items that a node is made of; values belong to their options. -/
def Node.items : Node → List Item
  | .root tree => Item.ofParts tree.commands tree.options
  | .program _ => []
  | .command given => given.items
  | .option given => [.option given]
  | .value _ => []

/-- The place of an item; that of a command is its name. -/
def Item.span : Item → Span
  | .command _ nameSpan => nameSpan
  | .option given => given.span

namespace CommandUse

theorem itemsAll_eq_flatMap (commands : List CommandUse) :
    itemsAll commands = commands.flatMap items := by
  induction commands with
  | nil => rfl
  | cons command rest ih => simp [itemsAll, ih]

theorem items_eq (command : CommandUse) :
    command.items = .command command.name command.nameSpan ::
      Item.ofParts command.commands command.options := by
  cases command
  rw [items, itemsAll_eq_flatMap]
  rfl

theorem items_ne_nil (command : CommandUse) : command.items ≠ [] := by
  rw [items_eq]
  exact List.cons_ne_nil _ _

theorem forall_items_iff (command : CommandUse) (property : Item → Prop) :
    (∀ item ∈ command.items, property item) ↔
      property (.command command.name command.nameSpan) ∧
        (∀ option ∈ command.options, property (.option option)) ∧
        ∀ below ∈ command.commands, ∀ item ∈ below.items, property item := by
  rw [items_eq, Item.ofParts, List.forall_mem_cons, List.forall_mem_append, List.forall_mem_map]
  refine and_congr_right fun _ => and_congr_right fun _ => ?_
  simp only [List.mem_flatMap, forall_exists_index, and_imp]
  exact ⟨fun all below member item inside => all item below member inside,
    fun all item below member inside => all below member item inside⟩

end CommandUse

theorem Item.items_assemble (items : List Item) :
    ofParts (assemble items).2 (assemble items).1 = items := by
  fun_induction assemble items with
  | case1 => rfl
  | case2 given rest options commands found ih =>
      rw [found] at ih
      simpa [ofParts] using ih
  | case3 name nameSpan rest below found ih =>
      rw [found] at ih
      simpa [ofParts, CommandUse.items_eq] using ih
  | case4 name nameSpan rest options beside _ found ih =>
      rw [found] at ih
      simpa [ofParts, CommandUse.items_eq] using ih

/-! ## Spans of commands -/

namespace Span

variable {α : Type} (place : α → Span)

theorem contains_foldl_cover_iff (outer first : Span) (parts : List α) :
    outer.contains (parts.foldl (fun covered part => covered.cover (place part)) first) = true ↔
      outer.contains first = true ∧ ∀ part ∈ parts, outer.contains (place part) = true := by
  induction parts generalizing first with
  | nil => simp
  | cons part rest ih =>
      rw [List.foldl_cons, ih, contains_cover_iff, List.forall_mem_cons, and_assoc]

theorem Marks.foldl_cover {source : String} {first : Span} (marks : first.Marks source)
    {parts : List α} (all : ∀ part ∈ parts, (place part).Marks source) :
    (parts.foldl (fun covered part => covered.cover (place part)) first).Marks source := by
  induction parts generalizing first with
  | nil => exact marks
  | cons part rest ih =>
      have here := all part (by simp)
      exact ih (marks.cover here) fun later member => all later (by simp [member])

end Span

namespace CommandUse

theorem contains_span_iff (outer : Span) (command : CommandUse) :
    outer.contains command.span = true ↔
      outer.contains command.nameSpan = true ∧
        (∀ below ∈ command.commands, outer.contains below.span = true) ∧
        ∀ option ∈ command.options, outer.contains option.span = true := by
  rw [span_eq, Span.contains_foldl_cover_iff, Span.contains_foldl_cover_iff, and_assoc]

theorem contains_span_iff_items (outer : Span) (command : CommandUse) :
    outer.contains command.span = true ↔
      ∀ item ∈ command.items, outer.contains item.span = true := by
  induction command using CommandUse.induction with
  | step name nameSpan commands options ih =>
      rw [contains_span_iff, forall_items_iff]
      refine and_congr_right fun _ => ?_
      rw [and_comm]
      exact and_congr_right fun _ => forall₂_congr ih

theorem stop_le_iff_items (limit : Nat) (command : CommandUse) :
    command.span.stop ≤ limit ↔ ∀ item ∈ command.items, item.span.stop ≤ limit := by
  have contains := contains_span_iff_items ⟨0, limit⟩ command
  simpa [Span.contains_iff, Span.stop] using contains

theorem le_position_iff_items (limit : Nat) (command : CommandUse) :
    limit ≤ command.span.position ↔ ∀ item ∈ command.items, limit ≤ item.span.position := by
  have stops := (stop_le_iff_items command.span.stop command).1 (Nat.le_refl _)
  have contains := contains_span_iff_items ⟨limit, command.span.stop⟩ command
  have farther : ∀ stop, stop ≤ command.span.stop →
      stop ≤ (⟨limit, command.span.stop⟩ : Span).stop := by
    intro stop inside
    exact Nat.le_trans inside (Nat.le_add_left ..)
  simp only [Span.contains_iff] at contains
  constructor
  · intro behind item member
    exact (contains.1 ⟨behind, farther _ (Nat.le_refl _)⟩ item member).1
  · intro behind
    exact (contains.2 fun item member => ⟨behind item member, farther _ (stops item member)⟩).1

theorem span_marks {source : String} (command : CommandUse)
    (marks : ∀ item ∈ command.items, item.span.Marks source) : command.span.Marks source := by
  induction command using CommandUse.induction with
  | step name nameSpan commands options ih =>
      obtain ⟨named, optionsMarked, below⟩ := (forall_items_iff ..).1 marks
      rw [span_eq]
      refine Span.Marks.foldl_cover _ (Span.Marks.foldl_cover _ named ?_) optionsMarked
      intro command member
      exact ih command member (below command member)

end CommandUse

end CommandLine
