import CommandLine.Proofs.Token.Listing
import CommandLine.Proofs.Tree.Parse
import CommandLine.Tree.Outline
import Mathlib.Control.Monad.Basic

/-!
# Outlines line by line

Commands, options and bare values of a parsed tree cannot hold a newline, and quoted values
are shown escaped.  Only the name of the program is shown as it was read, even if it was
quoted.  So the outline of a parsed tree has a row for each node if and only if the name of
its program is unbroken: `outline_lined_iff_of_parse`.
-/

set_option autoImplicit false

namespace CommandLine

open Text (Unbroken Lined)

namespace Node

/-! ## Texts of nodes -/

/-- The text that a node shows was read as a literal, a bare word or a name. -/
def Readable (quote : Char) : Node → Prop
  | .root _ => True
  | .program given => given.literal.Readable quote
  | .command given => Bare quote given.name
  | .option given => OptionUse.Named given.dashes given.name
  | .value given => given.literal.Readable quote

theorem exists_option_of_child {parent : Node} {value : Value}
    (member : .value value ∈ parent.children) :
    ∃ option, parent = .option option ∧ option.value? = some value := by
  cases parent with
  | root tree => simp [children, mem_merge] at member
  | program given => cases member
  | command given => simp [children, mem_merge] at member
  | option given => exact ⟨given, rfl, by simpa [children] using member⟩
  | value given => cases member

theorem readable_of_value_token {quote : Char} {value : Value}
    (readable : value.token.kind.Readable quote) : value.literal.Readable quote := by
  rcases value with ⟨⟨text, quoted⟩, span⟩
  cases quoted
  · exact readable.1
  · exact readable.1

/-- The texts of a child were read if the tokens of its parent were. -/
theorem readable_of_child {quote : Char} {source : String} {parent child : Node}
    (read : ∀ token ∈ parent.walk.flatMap (tokens source), token.kind.Readable quote)
    (member : child ∈ parent.children) : child.Readable quote := by
  have own : ∀ token ∈ child.tokens source, token.kind.Readable quote := by
    intro token written
    have visited : child ∈ child.walk := by
      rw [walk_eq]
      exact List.mem_cons_self
    exact read token (List.mem_flatMap.2 ⟨child, mem_walk_of_child member visited, written⟩)
  cases child with
  | root tree => trivial
  | program given => exact own _ (List.mem_singleton_self _)
  | command given => exact (own _ (List.mem_singleton_self _)).1
  | option given =>
      have whole : OptionUse.Readable quote _ := own _ (List.mem_singleton_self _)
      exact whole.named
  | value given =>
      cases attached : given.isAttached source with
      | false =>
          apply readable_of_value_token
          apply own
          simp [tokens, Value.tokens, attached]
      | true =>
          -- an attached value was read with its option
          obtain ⟨option, rfl, value⟩ := exists_option_of_child member
          have whole : (option.token source).kind.Readable quote := by
            apply read
            rw [walk_eq]
            exact List.mem_append_left _ (List.mem_singleton_self _)
          exact OptionUse.Readable.value whole given (by simp [value, Option.filter, attached])

theorem readable_of_mem_walk {quote : Char} {source : String} {node : Node}
    (start : node.Readable quote)
    (read : ∀ token ∈ node.walk.flatMap (tokens source), token.kind.Readable quote) :
    ∀ visited ∈ node.walk, visited.Readable quote := by
  have both : ∀ visited ∈ node.walk, visited.Readable quote ∧
      ∀ token ∈ visited.walk.flatMap (tokens source), token.kind.Readable quote := by
    refine walk_induction (motive := fun inner => inner.Readable quote ∧
      ∀ token ∈ inner.walk.flatMap (tokens source), token.kind.Readable quote) ⟨start, read⟩ ?_
    rintro parent ⟨-, readParent⟩ child member
    refine ⟨readable_of_child readParent member, ?_⟩
    intro token written
    obtain ⟨visited, inside, own⟩ := List.mem_flatMap.1 written
    exact readParent token (List.mem_flatMap.2 ⟨visited, mem_walk_of_child member inside, own⟩)
  exact fun visited member => (both visited member).1

def BelongsTo (tree : Tree) : Node → Prop
  | .root other => other = tree
  | .program given => given = tree.program
  | _ => True

theorem belongsTo_of_mem_walk {tree : Tree} :
    ∀ visited ∈ (Node.root tree).walk, visited.BelongsTo tree := by
  have root : (Node.root tree).BelongsTo tree := rfl
  refine walk_induction root ?_
  intro parent own child member
  cases parent with
  | root other =>
      obtain rfl : other = tree := own
      rcases List.mem_cons.1 member with rfl | part
      · rfl
      · rcases mem_merge.1 part with ⟨command, -, rfl⟩ | ⟨option, -, rfl⟩ <;> trivial
  | program given => cases member
  | command given => rcases mem_merge.1 member with ⟨command, -, rfl⟩ | ⟨option, -, rfl⟩ <;> trivial
  | option given =>
      obtain ⟨value, -, rfl⟩ := List.mem_map.1 member
      trivial
  | value given => cases member

/-! ## Rows -/

theorem unbroken_label {quote : Char} {node : Node} (readable : node.Readable quote)
    (single : ∀ given, node = .program given → Unbroken given.literal.text) :
    Unbroken node.label := by
  cases node with
  | root tree =>
      rw [label]
      decide
  | program given =>
      rw [label, Text.unbroken_append_iff]
      exact ⟨by decide, single given rfl⟩
  | command given =>
      rw [label, Text.unbroken_append_iff]
      exact ⟨by decide, Bare.unbroken readable⟩
  | option given =>
      rw [label, Text.unbroken_append_iff, Text.unbroken_append_iff]
      exact ⟨⟨by decide, given.dashes.unbroken_text⟩, OptionUse.Named.unbroken readable⟩
  | value given =>
      rcases given with ⟨⟨text, quoted⟩, span⟩
      cases quoted with
      | true =>
          rw [label, Text.unbroken_append_iff]
          exact ⟨by decide, Text.unbroken_quoted text⟩
      | false =>
          have bare : Bare quote text := readable
          rw [label, Text.unbroken_append_iff]
          exact ⟨by decide, bare.unbroken⟩

def row (depth : Nat) (node : Node) : String :=
  Text.spaces (2 * depth) ++ node.label ++ " " ++ node.span.text

theorem unbroken_row_iff (depth : Nat) (node : Node) :
    Unbroken (row depth node) ↔ Unbroken node.label := by
  have blank : Unbroken " " := by decide
  simp only [row, Text.unbroken_append_iff, Text.unbroken_spaces, blank, node.span.unbroken_text,
    true_and, and_true]

/-- No label starts with a space. -/
theorem exists_label_cons (node : Node) :
    ∃ char rest, node.label.toList = char :: rest ∧ char ≠ ' ' := by
  have shown (word text : String) {char : Char} {rest : List Char}
      (start : word.toList = char :: rest) (visible : char ≠ ' ') :
      ∃ char rest, (word ++ text).toList = char :: rest ∧ char ≠ ' ' := by
    rw [String.toList_append, start]
    exact ⟨char, _, rfl, visible⟩
  cases node with
  | root tree => exact ⟨'r', ['o', 'o', 't'], by rw [label]; decide, by decide⟩
  | program given => exact shown "program " _ rfl (by decide)
  | command given => exact shown "command " _ rfl (by decide)
  | option given =>
      rw [label, String.append_assoc]
      exact shown "option " _ rfl (by decide)
  | value given =>
      rcases given with ⟨⟨text, quoted⟩, span⟩
      cases quoted
      · exact shown "value " _ rfl (by decide)
      · exact shown "value " _ rfl (by decide)

theorem indent_row (depth : Nat) (node : Node) :
    ((row depth node).toList.takeWhile (· = ' ')).length = 2 * depth := by
  obtain ⟨char, rest, start, visible⟩ := exists_label_cons node
  have spelled : (row depth node).toList =
      List.replicate (2 * depth) ' ' ++ char :: (rest ++ ' ' :: node.span.text.toList) := by
    simp [row, Text.spaces, start]
  rw [spelled, List.takeWhile_append_of_pos (by simp),
    List.takeWhile_cons_of_neg (by simpa using visible), List.append_nil, List.length_replicate]

end Node

namespace Tree

def rows (tree : Tree) : List String :=
  ((Node.root tree).preorder 0).map fun (depth, node) => node.row depth

theorem outline_eq_ofLines (tree : Tree) : tree.outline = Text.ofLines tree.rows := by
  rw [outline, Text.ofLines, rows, List.map_map]
  rfl

variable {settings : Settings} {source : String} {tree : Tree}

theorem readable_of_parse (parsed : parse settings source = .ok tree) :
    ∀ node ∈ (Node.root tree).walk, node.Readable settings.quote := by
  have cut : tokenize settings.quote source = .ok tree.tokens := by
    rw [tokenize, lex_of_parse parsed]
    rfl
  have root : (Node.root tree).Readable settings.quote := trivial
  apply Node.readable_of_mem_walk root
  rw [Node.walk_root_tokens (located_of_parse parsed)]
  exact Token.readable_of_tokenize cut

theorem unbroken_rows_iff (parsed : parse settings source = .ok tree) :
    (∀ row ∈ tree.rows, Unbroken row) ↔ Unbroken tree.program.literal.text := by
  have rows : (∀ row ∈ tree.rows, Unbroken row) ↔
      ∀ node ∈ (Node.root tree).walk, Unbroken node.label := by
    simp only [Tree.rows, Node.walk, List.forall_mem_map, Node.unbroken_row_iff]
  rw [rows]
  constructor
  · intro whole
    have program : Node.program tree.program ∈ (Node.root tree).walk := by
      apply Node.mem_walk_of_child List.mem_cons_self
      rw [Node.walk_eq]
      exact List.mem_cons_self
    have label := whole _ program
    rw [Node.label, Text.unbroken_append_iff] at label
    exact label.2
  · intro single node visited
    apply Node.unbroken_label (readable_of_parse parsed node visited)
    rintro given rfl
    obtain rfl : given = tree.program := Node.belongsTo_of_mem_walk _ visited
    exact single

/-- The outline of a parsed tree has a row for each node of a walk, which is indented by the
depth of the node and ends with its span, if and only if the name of the program is unbroken. -/
theorem outline_lined_iff_of_parse (parsed : parse settings source = .ok tree) :
    (Lined tree.rows tree.outline ↔ Unbroken tree.program.literal.text) ∧
      tree.rows.length = (Node.root tree).walk.length ∧
      ∀ (index depth : Nat) (node : Node),
        ((Node.root tree).preorder 0)[index]? = some (depth, node) →
        (Node.root tree).walk[index]? = some node ∧
          ∃ row, tree.rows[index]? = some row ∧
            (row.toList.takeWhile (· = ' ')).length = 2 * depth ∧
            ∃ label, row = label ++ " " ++ node.span.text := by
  refine ⟨?_, by simp [rows, Node.walk], ?_⟩
  · rw [outline_eq_ofLines, Text.lined_ofLines_iff, unbroken_rows_iff parsed]
  · intro index depth node visit
    refine ⟨by simp [Node.walk, visit], node.row depth, by simp [rows, visit], ?_, ?_⟩
    · exact node.indent_row depth
    · exact ⟨_, rfl⟩

theorem outline_lined_iff_of_broken_value :
    let source := "app --n=\"a\nb\" run"
    let value : Value := ⟨⟨"a\nb", true⟩, ⟨8, 5⟩⟩
    let tree : Tree := ⟨source, ⟨⟨"app", false⟩, ⟨0, 3⟩⟩, [⟨"run", ⟨14, 3⟩, [], []⟩],
      [⟨"n", ⟨4, 3⟩, .long, some value⟩]⟩
    parse {} source = .ok tree ∧
      (Lined tree.rows tree.outline ↔ Unbroken tree.program.literal.text) ∧
      tree.rows.length = (Node.root tree).walk.length ∧
      (∀ (index depth : Nat) (node : Node),
        ((Node.root tree).preorder 0)[index]? = some (depth, node) →
        (Node.root tree).walk[index]? = some node ∧
          ∃ row, tree.rows[index]? = some row ∧
            (row.toList.takeWhile (· = ' ')).length = 2 * depth ∧
            ∃ label, row = label ++ " " ++ node.span.text) ∧
      ((Node.root tree).preorder 0)[3]? = some (2, .value value) := by
  intro source value tree
  have parsed : parse {} source = .ok tree := by
    rw [parse_eq_ofLexed]
    decide +kernel
  obtain ⟨lined, length, rows⟩ := outline_lined_iff_of_parse parsed
  have nested : (Node.root tree).children =
      [.program tree.program, .option ⟨"n", ⟨4, 3⟩, .long, some value⟩,
        .command ⟨"run", ⟨14, 3⟩, [], []⟩] := by
    simp [tree, value, Node.children, Node.merge, List.mergeSort,
      List.MergeSort.Internal.splitInTwo, Node.span, CommandUse.span, CommandUse.coverAll,
      OptionUse.span]
  have fourth : ((Node.root tree).preorder 0)[3]? = some (2, .value value) := by
    rw [Node.preorder_eq, nested]
    simp [Node.preorder_eq 1 (.program _), Node.preorder_eq 1 (.option _),
      Node.preorder_eq 2 (.value _), Node.children]
  exact ⟨parsed, lined, length, rows, fourth⟩

theorem outline_broken_by_program_name :
    let source := "\"a\nb\""
    let tree : Tree := ⟨source, ⟨⟨"a\nb", true⟩, ⟨0, 5⟩⟩, [], []⟩
    parse {} source = .ok tree ∧ tree.outline = "root 0..5\n  program a\nb 0..5\n" ∧
      (Node.root tree).walk.length = 2 ∧ ∀ lines, Lined lines tree.outline → lines.length = 3 := by
  intro source tree
  have parsed : parse {} source = .ok tree := by
    rw [parse_eq_ofLexed]
    decide +kernel
  have visits : (Node.root tree).preorder 0 = [(0, .root tree), (1, .program tree.program)] := by
    simp [tree, Node.preorder_eq 0 (.root _), Node.preorder_eq 1 (.program _), Node.children,
      Node.merge]
  have shown : tree.outline = "root 0..5\n  program a\nb 0..5\n" := by
    rw [outline_eq_ofLines, rows, visits]
    decide +kernel
  refine ⟨parsed, shown, by rw [Node.walk, visits]; rfl, ?_⟩
  intro lines lined
  rw [← lined.breaks_eq, shown]
  decide

end Tree

end CommandLine
