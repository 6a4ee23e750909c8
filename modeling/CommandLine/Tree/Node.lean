import CommandLine.Tree

/-!
# Nodes of a tree

Every part of a tree can be viewed as a node with a span and with children in
the order of the source.  `Node.preorder` visits a node before its children and
says how deep each visit is; `preorder_eq` is its equation.
-/

set_option autoImplicit false

namespace CommandLine

inductive Node where
  | root (tree : Tree)
  | program (value : Value)
  | command (command : CommandUse)
  | option (option : OptionUse)
  | value (value : Value)
  deriving DecidableEq, Repr

namespace Node

def span : Node → Span
  | .root tree => tree.span
  | .program given => given.span
  | .command given => given.span
  | .option given => given.span
  | .value given => given.span

/-- The word for a kind of node; a program name is a value like any other. -/
def kindName : Node → String
  | .root _ => "root"
  | .program _ => "value"
  | .command _ => "command"
  | .option _ => "option"
  | .value _ => "value"

def text (source : String) (node : Node) : String :=
  (node.span.slice? source).getD ""

/-- Commands and options of one owner in the order of the source; those that
start together keep commands before options. -/
def merge (commands : List CommandUse) (options : List OptionUse) : List Node :=
  (commands.map Node.command ++ options.map Node.option).mergeSort
    fun node next => node.span.position ≤ next.span.position

def children : Node → List Node
  | .root tree => .program tree.program :: merge tree.commands tree.options
  | .program _ => []
  | .command given => merge given.commands given.options
  | .option given => given.value?.toList.map Node.value
  | .value _ => []

theorem mem_merge {commands : List CommandUse} {options : List OptionUse} {node : Node} :
    node ∈ merge commands options ↔
      (∃ command ∈ commands, node = .command command) ∨
        ∃ option ∈ options, node = .option option := by
  simp [merge, eq_comm]

theorem sizeOf_lt_of_mem_children {node child : Node} (member : child ∈ node.children) :
    sizeOf child < sizeOf node := by
  cases node with
  | root tree =>
      rcases tree with ⟨source, program, commands, options⟩
      simp only [children, List.mem_cons, mem_merge] at member
      rcases member with rfl | ⟨command, inside, rfl⟩ | ⟨option, inside, rfl⟩
      · simp
        omega
      · have smaller := List.sizeOf_lt_of_mem inside
        simp
        omega
      · have smaller := List.sizeOf_lt_of_mem inside
        simp
        omega
  | program given => simp [children] at member
  | command given =>
      rcases given with ⟨name, nameSpan, commands, options⟩
      simp only [children, mem_merge] at member
      rcases member with ⟨command, inside, rfl⟩ | ⟨option, inside, rfl⟩
      · have smaller := List.sizeOf_lt_of_mem inside
        simp
        omega
      · have smaller := List.sizeOf_lt_of_mem inside
        simp
        omega
  | option given =>
      rcases given with ⟨name, nameSpan, dashes, value?⟩
      cases value? with
      | none => simp [children] at member
      | some value =>
          obtain rfl : child = .value value := by simpa [children] using member
          simp
          omega
  | value given => simp [children] at member

/-- The visits of a walk that starts at a node of the given depth: the node
itself, and then its children in order, one level deeper. -/
def preorder (depth : Nat) (node : Node) : List (Nat × Node) :=
  (depth, node) ::
    node.children.attach.flatMap fun ⟨child, _member⟩ => child.preorder (depth + 1)
termination_by sizeOf node
decreasing_by exact sizeOf_lt_of_mem_children _member

theorem preorder_eq (depth : Nat) (node : Node) :
    node.preorder depth =
      (depth, node) :: node.children.flatMap fun child => child.preorder (depth + 1) := by
  rw [preorder]
  simp only [List.flatMap_subtype, List.unattach_attach]

def walk (node : Node) : List Node :=
  (node.preorder 0).map Prod.snd

end Node

end CommandLine
