import CommandLine.Proofs.Tree.Flatten
import CommandLine.Proofs.Tree.Moved
import CommandLine.Proofs.Tree.Shape

/-!
# Arranged commands

Siblings are arranged if only the last of them lacks options or has commands below it,
none has both, and the same holds of the commands below.  These are the siblings that
items form (`formed_iff_arranged`): taken apart into items, they are put together again
(`assemble_ofParts`).

Commands do not hang on the spans of the items that form them (`assemble_map_unplaced`).
-/

set_option autoImplicit false

namespace CommandLine

/-- Siblings, and all below them, as a reader of trees leaves them. -/
inductive Arranged : List CommandUse → Prop
  | intro {siblings : List CommandUse} (separated : Separated siblings)
      (alone : ∀ command ∈ siblings, command.commands = [] ∨ command.options = [])
      (below : ∀ command ∈ siblings, Arranged command.commands) : Arranged siblings

theorem Separated.tail {command : CommandUse} {rest : List CommandUse}
    (separated : Separated (command :: rest)) : Separated rest := by
  cases rest with
  | nil => simp [Separated]
  | cons next more =>
      intro other member
      exact separated other (List.mem_cons_of_mem _ member)

namespace Item

theorem assemble_options_append (options : List OptionUse) (items : List Item) :
    assemble (options.map Item.option ++ items) =
      (options ++ (assemble items).1, (assemble items).2) := by
  induction options with
  | nil => rfl
  | cons option rest ih => rw [List.map_cons, List.cons_append, assemble_option, ih]; rfl

/-- Siblings are formed by their items if the commands below each of them are. -/
theorem assemble_siblings {siblings : List CommandUse} (separated : Separated siblings)
    (alone : ∀ command ∈ siblings, command.commands = [] ∨ command.options = [])
    (below : ∀ command ∈ siblings,
      assemble (command.commands.flatMap CommandUse.items) = ([], command.commands)) :
    assemble (siblings.flatMap CommandUse.items) = ([], siblings) := by
  induction siblings with
  | nil => rfl
  | cons command rest ih =>
      have beside := ih separated.tail (fun other member => alone other (by simp [member]))
        (fun other member => below other (by simp [member]))
      have under := below command (by simp)
      rcases command with ⟨name, nameSpan, commands, options⟩
      rw [List.flatMap_cons, CommandUse.items_eq, List.cons_append, ofParts, List.append_assoc,
        assemble_command]
      by_cases bare : options = []
      · -- no sibling can follow, and all that is left lies below
        obtain rfl : rest = [] := by
          cases rest with
          | nil => rfl
          | cons next more => exact absurd bare (separated _ List.mem_cons_self).1
        have stops : startWithOption (commands.flatMap CommandUse.items) = false := by
          rw [← options_assemble_eq_nil_iff, under]
        simp [bare, stops, under]
      · obtain rfl : commands = [] := (alone _ List.mem_cons_self).resolve_right bare
        obtain ⟨first, others, rfl⟩ := List.exists_cons_of_ne_nil bare
        have formed := assemble_options_append (first :: others)
          (rest.flatMap CommandUse.items)
        rw [beside, List.append_nil] at formed
        rw [List.flatMap_nil, List.nil_append, formed]
        rfl

theorem assemble_ofParts {commands : List CommandUse} (arranged : Arranged commands)
    (options : List OptionUse) : assemble (ofParts commands options) = (options, commands) := by
  have formed : assemble (commands.flatMap CommandUse.items) = ([], commands) := by
    induction arranged with
    | intro separated alone below ih => exact assemble_siblings separated alone ih
  rw [ofParts, assemble_options_append, formed, List.append_nil]

end Item

theorem Formed.arranged {siblings : List CommandUse} (formed : Formed siblings) :
    Arranged siblings :=
  .intro formed.separated (fun _ => formed.below_or_options) fun _command member =>
    (formed.below member).arranged
termination_by sizeOf siblings
decreasing_by
  have smaller := List.sizeOf_lt_of_mem member
  rcases _command with ⟨name, nameSpan, commands, options⟩
  simp at smaller ⊢
  omega

theorem formed_iff_arranged (siblings : List CommandUse) :
    Formed siblings ↔ Arranged siblings := by
  constructor
  · exact Formed.arranged
  · intro arranged
    exact ⟨_, by rw [Item.assemble_ofParts arranged []]⟩

/-! ## Spans do not matter -/

def Item.unplaced : Item → Item
  | .command name _ => .command name (.point 0)
  | .option given => .option given.unplaced

mutual

def CommandUse.unplaced : CommandUse → CommandUse
  | ⟨name, _, commands, options⟩ =>
      ⟨name, .point 0, CommandUse.unplacedAll commands, options.map OptionUse.unplaced⟩

def CommandUse.unplacedAll : List CommandUse → List CommandUse
  | [] => []
  | command :: rest => command.unplaced :: CommandUse.unplacedAll rest

end

theorem CommandUse.unplacedAll_eq_map (commands : List CommandUse) :
    unplacedAll commands = commands.map unplaced := by
  induction commands with
  | nil => rfl
  | cons command rest ih => rw [unplacedAll, ih, List.map_cons]

def Tree.unplaced (tree : Tree) : Tree :=
  ⟨"", tree.program.unplaced, tree.commands.map CommandUse.unplaced,
    tree.options.map OptionUse.unplaced⟩

theorem CommandUse.moved_zero : moved (fun _ => 0) = unplaced := by
  funext command
  induction command using CommandUse.induction with
  | step name nameSpan commands options ih =>
      rw [moved_eq, unplaced, unplacedAll_eq_map]
      exact congrArg (fun below => (⟨name, .point 0, below, _⟩ : CommandUse))
        (List.map_congr_left ih)

namespace Item

theorem moved_zero : moved (fun _ => 0) = unplaced := by
  funext item
  cases item <;> rfl

theorem tooDeep?_map_unplaced_eq_none_iff (limit depth : Nat) (items : List Item) :
    tooDeep? limit depth (items.map unplaced) = none ↔ tooDeep? limit depth items = none := by
  rw [← moved_zero, tooDeep?_map_moved, Option.map_eq_none_iff]

theorem assemble_map_unplaced (items : List Item) :
    assemble (items.map unplaced) =
      ((assemble items).1.map OptionUse.unplaced, (assemble items).2.map CommandUse.unplaced) := by
  rw [← moved_zero, assemble_map_moved, CommandUse.moved_zero]
  rfl

end Item

end CommandLine
