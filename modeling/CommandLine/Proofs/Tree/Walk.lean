import CommandLine.Proofs.Tree.Located

/-!
# Walks over located trees

The children of a located node are found by a sort, but the sort has nothing to
decide: the options come before the commands (`children_of_located`).  So a walk
visits the parts of a located tree in the order of their tokens, and what a walk
writes down are the tokens that the tree was read from (`walk_tokens`).
-/

set_option autoImplicit false

namespace CommandLine

/-! ## Walks -/

namespace Node

/-- Proves a property of every node from its children. -/
theorem induction {motive : Node → Prop}
    (step : ∀ node, (∀ child ∈ node.children, motive child) → motive node) (node : Node) :
    motive node :=
  preorder.induct (fun _ => motive) (fun _ => step) 0 node

theorem map_snd_preorder (node : Node) :
    ∀ depth, (node.preorder depth).map Prod.snd = node.walk := by
  have same : ∀ first second, (node.preorder first).map Prod.snd =
      (node.preorder second).map Prod.snd := by
    induction node using Node.induction with
    | step node ih =>
        intro first second
        rw [preorder_eq first, preorder_eq second]
        simp only [List.map_cons, List.map_flatMap]
        congr 1
        exact List.flatMap_congr fun child member =>
          ih child member (first + 1) (second + 1)
  intro depth
  exact same depth 0

theorem walk_eq (node : Node) : node.walk = node :: node.children.flatMap walk := by
  rw [walk, preorder_eq, List.map_cons, List.map_flatMap]
  simp only [map_snd_preorder]

theorem mem_walk_of_child {node child visited : Node} (own : child ∈ node.children)
    (inside : visited ∈ child.walk) : visited ∈ node.walk := by
  rw [walk_eq]
  exact List.mem_cons_of_mem _ (List.mem_flatMap.2 ⟨child, own, inside⟩)

theorem mem_walk_of_below {command below : CommandUse} {node : Node}
    (member : below ∈ command.commands) (inside : node ∈ (Node.command below).walk) :
    node ∈ (Node.command command).walk :=
  mem_walk_of_child (mem_merge.2 (.inl ⟨below, member, rfl⟩)) inside

/-- What passes from a node to its children holds on a whole walk. -/
theorem walk_induction {motive : Node → Prop} {node : Node} (start : motive node)
    (step : ∀ parent, motive parent → ∀ child ∈ parent.children, motive child) :
    ∀ visited ∈ node.walk, motive visited := by
  induction node using Node.induction with
  | step node ih =>
      rw [walk_eq]
      intro visited member
      rcases List.mem_cons.1 member with rfl | below
      · exact start
      · obtain ⟨child, own, inside⟩ := List.mem_flatMap.1 below
        exact ih child own (step node start child own) visited inside

end Node

/-! ## Children in order -/

namespace ItemsLocated

variable {source : String}

theorem sublist {items part : List Item} (located : ItemsLocated source items)
    (inside : part.Sublist items) : ItemsLocated source part :=
  ⟨fun item member => located.each item (inside.subset member),
    located.ordered.sublist inside⟩

theorem of_command {command : CommandUse} (located : ItemsLocated source command.items) :
    ItemsLocated source (Item.ofParts command.commands command.options) := by
  rw [CommandUse.items_eq] at located
  exact located.sublist (List.sublist_cons_self ..)

theorem command_of_parts {options : List OptionUse} {commands : List CommandUse}
    (located : ItemsLocated source (Item.ofParts commands options))
    {command : CommandUse} (member : command ∈ commands) :
    ItemsLocated source command.items := by
  apply located.sublist
  refine List.Sublist.trans ?_ (List.sublist_append_right ..)
  exact List.sublist_flatten_of_mem (List.mem_map_of_mem member)

theorem option_of_parts {options : List OptionUse} {commands : List CommandUse}
    (located : ItemsLocated source (Item.ofParts commands options))
    {option : OptionUse} (member : option ∈ options) : option.Located source :=
  located.each (.option option) (List.mem_append_left _ (List.mem_map_of_mem member))

end ItemsLocated

theorem CommandUse.marks_of_located {source : String} {command : CommandUse}
    (located : ItemsLocated source command.items) : command.span.Marks source :=
  command.span_marks fun item member => (located.each item member).marks

def Node.parts (commands : List CommandUse) (options : List OptionUse) : List Node :=
  options.map Node.option ++ commands.map Node.command

theorem Node.items_parts (commands : List CommandUse) (options : List OptionUse) :
    (Node.parts commands options).flatMap Node.items = Item.ofParts commands options := by
  rw [Node.parts, Item.ofParts, List.flatMap_append, List.flatMap_map, List.flatMap_map]
  congr 1
  exact List.flatMap_pure_eq_map ..

theorem Node.stop_le_of_items {commands : List CommandUse} {options : List OptionUse}
    {node : Node} (member : node ∈ Node.parts commands options) {limit : Nat}
    (items : ∀ item ∈ node.items, item.span.stop ≤ limit) : node.span.stop ≤ limit := by
  simp only [Node.parts, List.mem_append, List.mem_map] at member
  rcases member with ⟨option, -, rfl⟩ | ⟨command, -, rfl⟩
  · exact items (.option option) (by simp [Node.items])
  · exact (command.stop_le_iff_items limit).2 items

theorem Node.le_position_of_items {commands : List CommandUse} {options : List OptionUse}
    {node : Node} (member : node ∈ Node.parts commands options) {limit : Nat}
    (items : ∀ item ∈ node.items, limit ≤ item.span.position) :
    limit ≤ node.span.position := by
  simp only [Node.parts, List.mem_append, List.mem_map] at member
  rcases member with ⟨option, -, rfl⟩ | ⟨command, -, rfl⟩
  · exact items (.option option) (by simp [Node.items])
  · exact (command.le_position_iff_items limit).2 items

section Parts

variable {source : String} {commands : List CommandUse} {options : List OptionUse}

theorem Node.marks_of_parts (located : ItemsLocated source (Item.ofParts commands options))
    {node : Node} (member : node ∈ Node.parts commands options) : node.span.Marks source := by
  simp only [Node.parts, List.mem_append, List.mem_map] at member
  rcases member with ⟨option, inside, rfl⟩ | ⟨command, inside, rfl⟩
  · exact (located.option_of_parts inside).marks
  · exact CommandUse.marks_of_located (located.command_of_parts inside)

theorem Node.parts_ordered (located : ItemsLocated source (Item.ofParts commands options)) :
    (Node.parts commands options).Pairwise fun node next =>
      node.span.position < next.span.position ∧ node.span.stop ≤ next.span.position := by
  have ordered := located.ordered
  rw [← Node.items_parts] at ordered
  refine (List.pairwise_flatMap.1 ordered).2.imp_of_mem ?_
  intro node next member nextMember apart
  have order : node.span.stop ≤ next.span.position := by
    apply Node.stop_le_of_items member
    intro item own
    apply Node.le_position_of_items nextMember
    intro other otherOwn
    exact apart item own other otherOwn
  have forward := (Node.marks_of_parts located member).position_lt_stop
  exact ⟨by omega, order⟩

theorem Node.forall_merge_iff {commands : List CommandUse} {options : List OptionUse}
    {property : Node → Prop} :
    (∀ node ∈ merge commands options, property node) ↔
      (∀ command ∈ commands, property (.command command)) ∧
        ∀ option ∈ options, property (.option option) := by
  simp only [mem_merge, or_imp, forall_and, forall_exists_index, and_imp]
  constructor
  · intro ⟨below, given⟩
    exact ⟨fun command member => below _ command member rfl,
      fun option member => given _ option member rfl⟩
  · intro ⟨below, given⟩
    constructor
    · intro node command member same
      rw [same]
      exact below command member
    · intro node option member same
      rw [same]
      exact given option member

theorem Node.merge_sorted (commands : List CommandUse) (options : List OptionUse) :
    (Node.merge commands options).Pairwise fun node next =>
      node.span.position ≤ next.span.position := by
  have sorted := @List.pairwise_mergeSort Node
    (fun node next => decide (node.span.position ≤ next.span.position))
    (by simp only [decide_eq_true_eq]; exact fun _ _ _ => Nat.le_trans)
    (by simp only [Bool.or_eq_true, decide_eq_true_eq]; exact fun _ _ => Nat.le_total ..)
    (commands.map Node.command ++ options.map Node.option)
  simpa [Node.merge] using sorted

theorem Node.merge_perm_parts (commands : List CommandUse) (options : List OptionUse) :
    (Node.merge commands options).Perm (Node.parts commands options) :=
  (List.mergeSort_perm ..).trans List.perm_append_comm

theorem Node.merge_eq_parts (located : ItemsLocated source (Item.ofParts commands options)) :
    Node.merge commands options = Node.parts commands options := by
  have ordered := Node.parts_ordered located
  have apart : ∀ node ∈ Node.parts commands options, ∀ next ∈ Node.parts commands options,
      node.span.position = next.span.position → node = next := by
    intro node member next nextMember
    refine List.Pairwise.forall_of_forall_of_flip (R := fun node next : Node =>
      node.span.position = next.span.position → node = next) (fun _ _ _ => rfl) ?_ ?_
      member nextMember
    · exact ordered.imp fun strict same => absurd same (by omega)
    · exact ordered.imp fun strict same => absurd same (by omega)
  have same := Node.merge_perm_parts commands options
  refine List.Perm.eq_of_pairwise ?_ (Node.merge_sorted commands options)
    (ordered.imp fun strict => Nat.le_of_lt strict.1) same
  intro node next member nextMember before behind
  exact apart node (same.subset member) next nextMember (Nat.le_antisymm before behind)

end Parts

/-! ## Located nodes -/

structure Tree.Located (source : String) (tree : Tree) : Prop where
  sameSource : tree.source = source
  program : tree.program.span.Marks source
  items : ItemsLocated source (Item.ofParts tree.commands tree.options)
  order : ∀ item ∈ Item.ofParts tree.commands tree.options,
    tree.program.span.stop ≤ item.span.position

def Node.Located (source : String) : Node → Prop
  | .root tree => tree.Located source
  | .program given => given.span.Marks source
  | .command given => ItemsLocated source given.items
  | .option given => given.Located source
  | .value given => given.span.Marks source

namespace Node.Located

variable {source : String}

theorem children_root {tree : Tree} (located : tree.Located source) :
    (Node.root tree).children = .program tree.program :: parts tree.commands tree.options := by
  rw [children, merge_eq_parts located.items]

theorem children_command {command : CommandUse} (located : ItemsLocated source command.items) :
    (Node.command command).children = parts command.commands command.options := by
  rw [children, merge_eq_parts located.of_command]

theorem of_parts {commands : List CommandUse} {options : List OptionUse}
    (located : ItemsLocated source (Item.ofParts commands options)) :
    ∀ node ∈ parts commands options, node.Located source := by
  intro node member
  simp only [parts, List.mem_append, List.mem_map] at member
  rcases member with ⟨option, inside, rfl⟩ | ⟨command, inside, rfl⟩
  · exact located.option_of_parts inside
  · exact located.command_of_parts inside

theorem child {node : Node} (located : node.Located source) :
    ∀ child ∈ node.children, child.Located source := by
  cases node with
  | root tree =>
      rw [children_root located]
      exact List.forall_mem_cons.2 ⟨located.program, of_parts located.items⟩
  | program given => simp [children]
  | command given =>
      rw [children_command located]
      exact of_parts (ItemsLocated.of_command located)
  | option given =>
      intro child member
      obtain ⟨value, same, rfl⟩ : ∃ value, given.value? = some value ∧ child = .value value := by
        simpa [children, eq_comm] using member
      exact OptionUse.Located.value located value same
  | value given => simp [children]

theorem of_mem_walk {node visited : Node} (located : node.Located source)
    (member : visited ∈ node.walk) : visited.Located source :=
  walk_induction located (fun _ parent => parent.child) visited member

end Node.Located

/-! ## Tokens of a walk -/

namespace Node

variable {source : String}

theorem walk_option_tokens (source : String) (option : OptionUse) :
    (Node.option option).walk.flatMap (tokens source) = Item.tokens source (.option option) := by
  rw [walk_eq]
  cases given : option.value? with
  | none => simp [children, tokens, Item.tokens, given]
  | some value => simp [children, tokens, Item.tokens, given, walk_eq (.value value)]

theorem parts_tokens {commands : List CommandUse} (options : List OptionUse)
    (below : ∀ command ∈ commands, (Node.command command).walk.flatMap (tokens source) =
      command.items.flatMap (Item.tokens source)) :
    ((parts commands options).flatMap walk).flatMap (tokens source) =
      (Item.ofParts commands options).flatMap (Item.tokens source) := by
  simp only [parts, Item.ofParts, List.flatMap_append, List.flatMap_map, List.flatMap_assoc,
    walk_option_tokens]
  congr 1
  exact List.flatMap_congr below

theorem walk_command_tokens (command : CommandUse) (located : ItemsLocated source command.items) :
    (Node.command command).walk.flatMap (tokens source) =
      command.items.flatMap (Item.tokens source) := by
  induction command using CommandUse.induction with
  | step name nameSpan commands options ih =>
      have inside := located.of_command
      rw [walk_eq, Located.children_command located, List.flatMap_cons, parts_tokens,
        CommandUse.items_eq, List.flatMap_cons]
      · rfl
      · intro command member
        exact ih command member (inside.command_of_parts member)

theorem walk_root_tokens {tree : Tree} (located : tree.Located source) :
    (Node.root tree).walk.flatMap (tokens source) = tree.tokens := by
  rw [Tree.tokens, located.sameSource, walk_eq, Located.children_root located,
    List.flatMap_cons, List.flatMap_cons, walk_eq (.program _), List.flatMap_append, parts_tokens]
  · rfl
  · intro command member
    exact walk_command_tokens command (located.items.command_of_parts member)

end Node

end CommandLine
