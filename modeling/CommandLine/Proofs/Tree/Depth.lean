import CommandLine.Proofs.Tree.Parse
import Mathlib.Control.Monad.Basic

/-!
# Depths of commands

How deep a command lies can be told from the commands in front of it: one more than there are
commands without options among them.  A limit on the depth never changes a tree.  A source that
has one under some limit has the same one under every limit that is not less than its depth, and
under any other limit it has an error at the first command that lies too deep
(`Tree.limit_only_gates`).

Both are shown along the items of the tree.  A step over a command lists it, and goes on below
it if it has no options and beside it otherwise (`visitsAll_command`).
-/

set_option autoImplicit false

namespace CommandLine

def Node.command? : Node → Option CommandUse
  | .command given => some given
  | _ => none

def Node.commandVisits (depth : Nat) (node : Node) : List (Nat × CommandUse) :=
  (node.preorder depth).filterMap fun visit => visit.2.command?.map (visit.1, ·)

/-- The commands of a tree in the order of a walk; those next to the program have depth one. -/
def Tree.commandVisits (tree : Tree) : List (Nat × CommandUse) :=
  (Node.root tree).commandVisits 0

def CommandUse.visitsAll (depth : Nat) (commands : List CommandUse) : List (Nat × CommandUse) :=
  commands.flatMap fun command => (Node.command command).commandVisits depth

/-! ## Visits of a walk -/

namespace Node

theorem commandVisits_eq (depth : Nat) (node : Node) :
    node.commandVisits depth = (node.command?.map (depth, ·)).toList ++
      node.children.flatMap (commandVisits (depth + 1)) := by
  rw [commandVisits, preorder_eq, List.filterMap_cons, List.filterMap_flatMap]
  cases node.command? <;> rfl

theorem commandVisits_value (depth : Nat) (given : Value) :
    (Node.value given).commandVisits depth = [] := by
  rw [commandVisits_eq]
  rfl

theorem commandVisits_option (depth : Nat) (option : OptionUse) :
    (Node.option option).commandVisits depth = [] := by
  simp [commandVisits_eq depth (.option option), command?, children, List.flatMap_map,
    commandVisits_value]

theorem commandVisits_parts (depth : Nat) (commands : List CommandUse)
    (options : List OptionUse) :
    (parts commands options).flatMap (commandVisits depth) =
      CommandUse.visitsAll depth commands := by
  have none : (options.map Node.option).flatMap (commandVisits depth) = [] := by
    rw [List.flatMap_map]
    simp only [commandVisits_option, List.flatMap_eq_nil_iff, implies_true]
  rw [parts, List.flatMap_append, none, List.nil_append, List.flatMap_map]
  rfl

end Node

theorem ItemsLocated.commandVisits_eq {source : String} {command : CommandUse}
    (located : ItemsLocated source command.items) (depth : Nat) :
    (Node.command command).commandVisits depth =
      (depth, command) :: CommandUse.visitsAll (depth + 1) command.commands := by
  rw [Node.commandVisits_eq, Node.Located.children_command located, Node.commandVisits_parts]
  rfl

theorem Tree.Located.commandVisits_eq {source : String} {tree : Tree}
    (located : tree.Located source) :
    tree.commandVisits = CommandUse.visitsAll 1 tree.commands := by
  rw [commandVisits, Node.commandVisits_eq, Node.Located.children_root located,
    List.flatMap_cons, Node.commandVisits_parts, Node.commandVisits_eq _ (.program _)]
  rfl

/-! ## Visits of assembled items -/

namespace Item

open CommandUse (visitsAll)

variable {source : String}

/-- A command without options has the rest below it, any other one beside it. -/
theorem visitsAll_command {name : String} {nameSpan : Span} {rest : List Item}
    (located : ItemsLocated source (.command name nameSpan :: rest)) (depth : Nat) :
    ∃ command, command.nameSpan = nameSpan ∧
      command.options.isEmpty = !startWithOption rest ∧
      visitsAll depth (assemble (.command name nameSpan :: rest)).2 =
        (depth, command) ::
          visitsAll (if startWithOption rest then depth else depth + 1) (assemble rest).2 := by
  have parts := located
  rw [← items_assemble (.command name nameSpan :: rest)] at parts
  rw [assemble_command] at parts ⊢
  cases starts : startWithOption rest with
  | true =>
      have given : (assemble rest).1 ≠ [] := by
        intro none
        rw [(options_assemble_eq_nil_iff rest).1 none] at starts
        cases starts
      rw [starts, if_pos rfl] at parts
      have own := parts.command_of_parts List.mem_cons_self
      refine ⟨⟨name, nameSpan, [], (assemble rest).1⟩, rfl, by simpa using given, ?_⟩
      simp only [if_true, visitsAll, List.flatMap_cons, own.commandVisits_eq, List.flatMap_nil]
      rfl
  | false =>
      rw [starts, if_neg (by simp)] at parts
      have own := parts.command_of_parts List.mem_cons_self
      refine ⟨⟨name, nameSpan, (assemble rest).2, []⟩, rfl, rfl, ?_⟩
      rw [if_neg (by simp), if_neg (by simp), visitsAll, List.flatMap_singleton,
        own.commandVisits_eq]

theorem located_tail {item : Item} {rest : List Item}
    (located : ItemsLocated source (item :: rest)) : ItemsLocated source rest :=
  located.sublist (List.sublist_cons_self ..)

theorem depth_eq_of_visitsAll {items : List Item} (located : ItemsLocated source items)
    (start : Nat) {index depth : Nat} {command : CommandUse}
    (visited : (visitsAll start (assemble items).2)[index]? = some (depth, command)) :
    depth = start + ((visitsAll start (assemble items).2).take index).countP
      fun visit => visit.2.options.isEmpty := by
  induction items generalizing start index with
  | nil => cases visited
  | cons item rest ih =>
      have further := located_tail located
      cases item with
      | option given => exact ih further start visited
      | command name nameSpan =>
          obtain ⟨first, -, bare, same⟩ := visitsAll_command located start
          rw [same] at visited ⊢
          cases index with
          | zero =>
              cases visited
              rfl
          | succ index =>
              have later := ih further _ visited
              rw [later, List.take_succ_cons, List.countP_cons, bare]
              cases startWithOption rest with
              | true => simp
              | false =>
                  simp only [Bool.false_eq_true, if_false, Bool.not_false, if_true]
                  omega

def nameSpan? : Item → Option Span
  | .command _ nameSpan => some nameSpan
  | .option _ => none

theorem nameSpans_visitsAll {items : List Item} (located : ItemsLocated source items)
    (depth : Nat) :
    (visitsAll depth (assemble items).2).map (fun visit => visit.2.nameSpan) =
      items.filterMap nameSpan? := by
  induction items generalizing depth with
  | nil => rfl
  | cons item rest ih =>
      have further := located_tail located
      cases item with
      | option given => exact ih further depth
      | command name nameSpan =>
          obtain ⟨first, named, -, same⟩ := visitsAll_command located depth
          rw [same, List.map_cons, ih further, named]
          rfl

theorem visitsAll_ordered {items : List Item} (located : ItemsLocated source items)
    (depth : Nat) :
    (visitsAll depth (assemble items).2).Pairwise fun visit next =>
      visit.2.nameSpan.stop ≤ next.2.nameSpan.position := by
  rw [← List.pairwise_map (R := fun one next : Span => one.stop ≤ next.position),
    nameSpans_visitsAll located, List.pairwise_filterMap]
  refine located.ordered.imp ?_
  intro item next order one named other nextNamed
  cases item with
  | option given => cases named
  | command name nameSpan =>
      cases next with
      | option given => cases nextNamed
      | command nextName nextSpan =>
          cases named
          cases nextNamed
          exact order

/-- The first command that lies too deep lies just one below the limit. -/
theorem tooDeep?_eq_find? {items : List Item} (located : ItemsLocated source items)
    {limit depth : Nat} (within : depth ≤ limit + 1) :
    tooDeep? limit depth items =
      ((visitsAll depth (assemble items).2).find? fun visit => visit.1 = limit + 1).map
        fun visit => visit.2.nameSpan := by
  induction items generalizing depth with
  | nil => rfl
  | cons item rest ih =>
      have further := located_tail located
      cases item with
      | option given => exact ih further within
      | command name nameSpan =>
          obtain ⟨first, named, -, same⟩ := visitsAll_command located depth
          rw [tooDeep?, same, List.find?_cons]
          by_cases deep : limit < depth
          · have here : decide (depth = limit + 1) = true := by
              rw [decide_eq_true_eq]
              omega
            rw [if_pos deep, here, Option.map_some, named]
          · have above : decide (depth = limit + 1) = false := by
              rw [decide_eq_false_iff_not]
              omega
            rw [if_neg deep, above]
            refine ih further ?_
            split <;> omega

end Item

/-! ## Limits -/

namespace Tree

variable {settings : Settings} {source : String} {tree : Tree}

/-- Under another limit a source has its tree, or an error about its depth. -/
theorem parse_of_limit (parsed : parse settings source = .ok tree) (limit : Nat) :
    parse { settings with maxDepth := limit } source =
      match (tree.commandVisits.find? fun visit => visit.1 = limit + 1) with
      | some (_, command) => .error (.nestingTooDeep limit command.nameSpan)
      | none => .ok tree := by
  have located := located_of_parse parsed
  obtain ⟨same, tokens, items, lexed, read, -, assembled⟩ := (parse_eq_ok_iff ..).1 parsed
  have flat := Item.items_assemble items
  rw [assembled] at flat
  have first := Item.tooDeep?_eq_find? (flat ▸ located.items) (Nat.le_add_left 1 limit)
  rw [assembled, ← located.commandVisits_eq] at first
  rw [parse_eq_ofLexed, lexed]
  simp only [ofLexed, Lexed.ahead, read, assembled, Ahead.settle, Option.map_none, Option.or_none]
  rw [first]
  cases tree.commandVisits.find? fun visit => visit.1 = limit + 1 with
  | some visit => rfl
  | none =>
      rw [← same]
      rfl

/-- The depth of a command is told by the commands before it, and a limit on the depth decides
whether a source has its tree, and not which tree that is. -/
theorem limit_only_gates (parsed : parse settings source = .ok tree) :
    (tree.commandVisits.Pairwise fun visit next =>
      visit.2.nameSpan.stop ≤ next.2.nameSpan.position) ∧
    (∀ index depth command, tree.commandVisits[index]? = some (depth, command) →
      depth = 1 + (tree.commandVisits.take index).countP fun visit =>
        visit.2.options.isEmpty) ∧
    (∀ limit, tree.depth ≤ limit →
      parse { settings with maxDepth := limit } source = .ok tree) ∧
    (∀ limit, limit < tree.depth → ∃ command,
      tree.commandVisits.find? (fun visit => visit.1 = limit + 1) = some (limit + 1, command) ∧
      parse { settings with maxDepth := limit } source =
        .error (.nestingTooDeep limit command.nameSpan)) ∧
    tree.depth ≤ settings.maxDepth := by
  have located := located_of_parse parsed
  have visits := located.commandVisits_eq
  obtain ⟨-, tokens, items, -, -, -, assembled⟩ := (parse_eq_ok_iff ..).1 parsed
  have flat := Item.items_assemble items
  have placed : ItemsLocated source items := by
    rw [assembled] at flat
    exact flat ▸ located.items
  have commands : tree.commands = (Item.assemble items).2 := by rw [assembled]
  rw [commands] at visits
  have gate (limit : Nat) := exists_parse_iff_depth_le parsed limit
  refine ⟨?_, ?_, ?_, ?_, (gate settings.maxDepth).1 ⟨tree, parsed⟩⟩
  · rw [visits]
    exact Item.visitsAll_ordered placed 1
  · intro index depth command visited
    rw [visits] at visited ⊢
    exact Item.depth_eq_of_visitsAll placed 1 visited
  · intro limit within
    obtain ⟨other, read⟩ := (gate limit).2 within
    have same := parse_of_limit parsed limit
    rw [read] at same
    split at same
    · cases same
    · cases same
      exact read
  · intro limit deep
    have same := parse_of_limit parsed limit
    cases first : tree.commandVisits.find? fun visit => visit.1 = limit + 1 with
    | none =>
        rw [first] at same
        have within := (gate limit).1 ⟨tree, same⟩
        omega
    | some visit =>
        rcases visit with ⟨depth, command⟩
        obtain rfl : depth = limit + 1 := by simpa using List.find?_some first
        rw [first] at same
        exact ⟨command, rfl, same⟩

theorem limit_only_gates_of_reopened_level :
    let settings : Settings := ⟨'"', .nextToken, 3⟩
    let source := "ö a b -x=1 c d --y e f"
    let f : CommandUse := ⟨"f", ⟨22, 1⟩, [], []⟩
    let d : CommandUse := ⟨"d", ⟨14, 1⟩, [], [⟨"y", ⟨16, 3⟩, .long, some ⟨⟨"e", false⟩, ⟨20, 1⟩⟩⟩]⟩
    let c : CommandUse := ⟨"c", ⟨12, 1⟩, [d, f], []⟩
    let b : CommandUse := ⟨"b", ⟨5, 1⟩, [], [⟨"x", ⟨7, 2⟩, .short, some ⟨⟨"1", false⟩, ⟨10, 1⟩⟩⟩]⟩
    let a : CommandUse := ⟨"a", ⟨3, 1⟩, [b, c], []⟩
    let tree : Tree := ⟨source, ⟨⟨"ö", false⟩, ⟨0, 2⟩⟩, [a], []⟩
    parse settings source = .ok tree ∧ tree.depth = 3 ∧
      tree.commandVisits = [(1, a), (2, b), (2, c), (3, d), (3, f)] ∧
      (tree.commandVisits.Pairwise fun visit next =>
        visit.2.nameSpan.stop ≤ next.2.nameSpan.position) ∧
      (∀ index depth command, tree.commandVisits[index]? = some (depth, command) →
        depth = 1 + (tree.commandVisits.take index).countP fun visit =>
          visit.2.options.isEmpty) ∧
      (∀ limit, tree.depth ≤ limit →
        parse { settings with maxDepth := limit } source = .ok tree) ∧
      (∀ limit, limit < tree.depth → ∃ command,
        tree.commandVisits.find? (fun visit => visit.1 = limit + 1) = some (limit + 1, command) ∧
        parse { settings with maxDepth := limit } source =
          .error (.nestingTooDeep limit command.nameSpan)) ∧
      tree.depth ≤ settings.maxDepth := by
  intro settings source f d c b a tree
  have parsed : parse settings source = .ok tree := by
    rw [parse_eq_ofLexed]
    decide +kernel
  have visits : tree.commandVisits = [(1, a), (2, b), (2, c), (3, d), (3, f)] := by
    have nested : (Node.root tree).children = [.program tree.program, .command a] ∧
        (Node.command a).children = [.command b, .command c] ∧
        (Node.command c).children = [.command d, .command f] := by
      simp [tree, a, b, c, d, f, Node.children, Node.merge, List.mergeSort,
        List.MergeSort.Internal.splitInTwo, Node.span, CommandUse.span, CommandUse.coverAll,
        OptionUse.span]
    have leaves (depth : Nat) : (Node.program tree.program).commandVisits depth = [] ∧
        (Node.command b).commandVisits depth = [(depth, b)] ∧
        (Node.command d).commandVisits depth = [(depth, d)] ∧
        (Node.command f).commandVisits depth = [(depth, f)] := by
      simp [b, d, f, Node.commandVisits_eq _ (.program _), Node.commandVisits_eq _ (.command _),
        Node.commandVisits_option, Node.children, Node.merge, Node.command?]
    simp [commandVisits, Node.commandVisits_eq _ (.root tree), Node.commandVisits_eq _ (.command a),
      Node.commandVisits_eq _ (.command c), nested, leaves, Node.command?]
  exact ⟨parsed, by decide, visits, limit_only_gates parsed⟩

end Tree

end CommandLine
