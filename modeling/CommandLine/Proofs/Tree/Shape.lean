import CommandLine.Proofs.Tree.Parse
import Mathlib.Control.Monad.Basic

/-!
# Shapes of parsed trees

Nothing in a tree keeps a command from having commands and options at once, but
no source has such a tree.  Options close the command that they belong to, so a
command stands beside another one only if that has options, and only the last of
some siblings has commands below it.
-/

set_option autoImplicit false

namespace CommandLine

def Node.commands : Node → List CommandUse
  | .root tree => tree.commands
  | .command given => given.commands
  | _ => []

/-- A command that has a sibling behind it was closed by its options. -/
def Separated (siblings : List CommandUse) : Prop :=
  ∀ command ∈ siblings.dropLast, command.options ≠ [] ∧ command.commands = []

structure Tree.Shaped (tree : Tree) : Prop where
  optionsFirst : ∀ option ∈ tree.options, ∀ command ∈ tree.commands,
    option.span.stop ≤ command.span.position
  belowOrOptions : ∀ command, .command command ∈ (Node.root tree).walk →
    command.commands = [] ∨ command.options = []
  separated : ∀ node ∈ (Node.root tree).walk, Separated node.commands

/-! ## Siblings that items form -/

/-- Siblings that some items form, as all those in the tree of a source. -/
def Formed (siblings : List CommandUse) : Prop :=
  ∃ items, siblings = (Item.assemble items).2

theorem Item.separated_assemble (items : List Item) : Separated (assemble items).2 := by
  fun_induction assemble items with
  | case1 => simp [Separated]
  | case2 given rest options commands found ih => simpa [found] using ih
  | case3 name nameSpan rest below found ih => simp [Separated]
  | case4 name nameSpan rest options beside nonempty found ih =>
      rw [found] at ih
      intro command member
      rcases beside with - | ⟨next, further⟩
      · simp at member
      · rcases List.mem_cons.1 member with rfl | later
        · exact ⟨nonempty, rfl⟩
        · exact ih command later

theorem Item.formed_below (items : List Item) :
    ∀ command ∈ (assemble items).2, Formed command.commands := by
  fun_induction assemble items with
  | case1 => simp
  | case2 given rest options commands found ih => simpa [found] using ih
  | case3 name nameSpan rest below found ih =>
      intro command member
      rw [List.mem_singleton.1 member]
      exact ⟨rest, by rw [found]⟩
  | case4 name nameSpan rest options beside nonempty found ih =>
      rw [found] at ih
      intro command member
      rcases List.mem_cons.1 member with rfl | later
      · exact ⟨[], rfl⟩
      · exact ih command later

namespace Formed

variable {siblings : List CommandUse}

theorem separated (formed : Formed siblings) : Separated siblings := by
  obtain ⟨items, rfl⟩ := formed
  exact Item.separated_assemble items

theorem below (formed : Formed siblings) {command : CommandUse} (member : command ∈ siblings) :
    Formed command.commands := by
  obtain ⟨items, rfl⟩ := formed
  exact Item.formed_below items command member

theorem below_or_options (formed : Formed siblings) {command : CommandUse}
    (member : command ∈ siblings) : command.commands = [] ∨ command.options = [] := by
  obtain ⟨items, rfl⟩ := formed
  exact Item.below_or_options items command member

end Formed

/-! ## Walks -/

theorem Node.command_or_leaf_of_child {parent child : Node} (member : child ∈ parent.children) :
    (∃ command ∈ parent.commands, child = .command command) ∨
      child.commands = [] ∧ ∀ command, child ≠ .command command := by
  have merged : ∀ {commands options}, child ∈ merge commands options →
      (∃ command ∈ commands, child = .command command) ∨
        child.commands = [] ∧ ∀ command, child ≠ .command command := by
    intro commands options inside
    rcases mem_merge.1 inside with below | ⟨option, -, rfl⟩
    · exact .inl below
    · exact .inr ⟨rfl, fun command same => by cases same⟩
  cases parent with
  | root tree =>
      rcases List.mem_cons.1 member with rfl | inside
      · exact .inr ⟨rfl, fun command same => by cases same⟩
      · exact merged inside
  | program given => cases member
  | command given => exact merged member
  | option given =>
      obtain ⟨value, -, rfl⟩ := List.mem_map.1 member
      exact .inr ⟨rfl, fun command same => by cases same⟩
  | value given => cases member

theorem Node.formed_of_walk {tree : Tree} (formed : Formed tree.commands) :
    ∀ node ∈ (Node.root tree).walk, Formed node.commands ∧
      ∀ command, node = .command command → command.commands = [] ∨ command.options = [] := by
  apply Node.walk_induction
  · exact ⟨formed, fun command same => by cases same⟩
  · intro parent ⟨formed, _⟩ child member
    rcases Node.command_or_leaf_of_child member with ⟨given, own, rfl⟩ | ⟨leaf, other⟩
    · refine ⟨formed.below own, ?_⟩
      intro command same
      cases same
      exact formed.below_or_options own
    · exact ⟨⟨[], leaf⟩, fun command same => absurd same (other command)⟩

/-! ## Parsed trees -/

theorem Tree.Located.options_first {source : String} {tree : Tree} (located : tree.Located source) :
    ∀ option ∈ tree.options, ∀ command ∈ tree.commands,
      option.span.stop ≤ command.span.position := by
  have ordered := (List.pairwise_append.1 (Node.parts_ordered located.items)).2.2
  intro option given command below
  exact (ordered _ (List.mem_map_of_mem given) _ (List.mem_map_of_mem below)).2

theorem Tree.formed_of_parse {settings : Settings} {source : String} {tree : Tree}
    (parsed : parse settings source = .ok tree) : Formed tree.commands := by
  obtain ⟨-, -, items, -, -, -, assembled⟩ := (parse_eq_ok_iff ..).1 parsed
  exact ⟨items, by rw [assembled]⟩

/-- Every tree that was read from a source has its shape. -/
theorem Tree.shaped_of_parse {settings : Settings} {source : String} {tree : Tree}
    (parsed : parse settings source = .ok tree) : tree.Shaped := by
  have formed := Node.formed_of_walk (formed_of_parse parsed)
  refine ⟨(located_of_parse parsed).options_first, ?_, ?_⟩
  · intro command visited
    exact (formed _ visited).2 command rfl
  · intro node visited
    exact (formed node visited).1.separated

theorem Tree.shaped_of_branched_line :
    let source := "app -v add --all push now"
    let tree : Tree := ⟨source, ⟨⟨"app", false⟩, ⟨0, 3⟩⟩,
      [⟨"add", ⟨7, 3⟩, [], [⟨"all", ⟨11, 5⟩, .long, none⟩]⟩,
        ⟨"push", ⟨17, 4⟩, [⟨"now", ⟨22, 3⟩, [], []⟩], []⟩],
      [⟨"v", ⟨4, 2⟩, .short, none⟩]⟩
    parse ⟨'"', .attached, 2⟩ source = .ok tree ∧ tree.Shaped := by
  intro source tree
  have parsed : parse ⟨'"', .attached, 2⟩ source = .ok tree := by
    rw [parse_eq_ofLexed]
    decide +kernel
  exact ⟨parsed, shaped_of_parse parsed⟩

end CommandLine
