import CommandLine.Proofs.Token.Tokenize
import CommandLine.Proofs.Tree.Arranged
import CommandLine.Proofs.Tree.Source
import Mathlib.Control.Monad.Basic

/-!
# Commands on lines of their own

The text of a command in a parsed line can be put behind another program name.  Its tokens
then stand in another place, but are the same otherwise (`placed_add`), and form the items
that they formed before, since no item reaches beyond the command
(`Item.exists_split_of_ofTokens`).  So the command is read again, with all its spans moved
as far as its text was (`Tree.parse_extract`).
-/

set_option autoImplicit false

namespace CommandLine

open Text (bytes)

/-! ## Pieces in another place -/

section Pieces

variable (quote : Char) (start offset : Nat)

theorem OptionUse.placed_add (option : OptionUse) :
    option.placed quote (start + offset) =
      (option.placed quote start).mapSpans (Span.shifted offset) := by
  rcases option with ⟨name, nameSpan, dashes, value?⟩
  cases value? with
  | none => rfl
  | some value =>
      simp [placed, mapSpans, Value.mapSpans, Span.shifted]
      omega

theorem Token.Kind.placed_add (kind : Token.Kind) :
    kind.placed quote (start + offset) =
      (kind.placed quote start).mapSpans (Span.shifted offset) := by
  cases kind with
  | option given => simp [placed, Token.mapSpans, mapSpans, given.placed_add, Span.shifted]
  | program literal => rfl
  | command name => rfl
  | value literal => rfl

theorem placed_add (pieces : List Piece) :
    placed quote (start + offset) pieces =
      (placed quote start pieces).map (Token.mapSpans (Span.shifted offset)) := by
  induction pieces generalizing start with
  | nil => rfl
  | cons piece rest ih =>
      rw [placed, placed, List.map_cons, ← ih, ← piece.kind.placed_add]
      simp only [Nat.add_right_comm]

theorem written_append (front back : List Piece) (tail : List Char) :
    written quote (front ++ back) tail = written quote front [] ++ written quote back tail := by
  simp [written]

theorem placed_append (front back : List Piece) :
    placed quote start (front ++ back) =
      placed quote start front ++ placed quote (start + bytes (written quote front [])) back := by
  induction front generalizing start with
  | nil => rfl
  | cons piece rest ih =>
      rw [List.cons_append, placed, placed, ih, written_cons, Text.bytes_append,
        List.cons_append, Nat.add_assoc]

variable {quote start}

theorem exists_split_of_placed {pieces : List Piece} {first second : List Token}
    (same : placed quote start pieces = first ++ second) :
    ∃ front back, pieces = front ++ back ∧ first = placed quote start front ∧
      second = placed quote (start + bytes (written quote front [])) back := by
  induction first generalizing pieces start with
  | nil => exact ⟨[], pieces, rfl, rfl, same.symm⟩
  | cons token more ih =>
      rcases pieces with - | ⟨piece, rest⟩
      · cases same
      obtain ⟨here, further⟩ := List.cons.inj same
      obtain ⟨front, back, rfl, rfl, rfl⟩ := ih further
      refine ⟨piece :: front, back, rfl, ?_, ?_⟩
      · rw [← here, placed]
      · rw [written_cons, Text.bytes_append, Nat.add_assoc]

/-- The last token of some pieces ends where they do. -/
theorem stop_of_getLast?_placed {pieces : List Piece} {token : Token}
    (last : token ∈ (placed quote start pieces).getLast?) :
    token.span.stop = start + bytes (written quote pieces []) := by
  rcases List.eq_nil_or_concat pieces with rfl | ⟨lead, piece, rfl⟩
  · cases last
  · rw [List.concat_eq_append] at last ⊢
    rw [placed_append, placed, placed, List.getLast?_append] at last
    obtain rfl : _ = token := Option.some.inj last
    simp [Token.Kind.placed, Span.stop, written, Piece.text, Nat.add_assoc]

end Pieces

/-! ## Items and their tokens -/

/-- Tokens of some items can be cut where the items are. -/
theorem Item.exists_split_of_ofTokens {style : ValueStyle} :
    ∀ {tokens : List Token} {front back : List Item},
      ofTokens style tokens = (front ++ back, none) →
      ∃ first second, tokens = first ++ second ∧ ofTokens style first = (front, none) ∧
        ofTokens style second = (back, none)
  | tokens, [], back, read => ⟨[], tokens, rfl, rfl, read⟩
  | [], _ :: _, back, read => by cases (Prod.mk.inj read).1
  | ⟨.program literal, span⟩ :: rest, _ :: _, back, read => by cases (Prod.mk.inj read).2
  | ⟨.value literal, span⟩ :: rest, _ :: _, back, read => by cases (Prod.mk.inj read).2
  | ⟨.command name, span⟩ :: rest, item :: front, back, read => by
      obtain ⟨items, complete⟩ := Prod.mk.inj read
      obtain ⟨rfl, others⟩ := List.cons.inj items
      obtain ⟨first, second, rfl, own, later⟩ :=
        exists_split_of_ofTokens (Prod.ext others complete)
      refine ⟨⟨.command name, span⟩ :: first, second, rfl, ?_, later⟩
      rw [ofTokens, own]
  | [⟨.option given, span⟩], item :: front, back, read => by
      obtain ⟨items, complete⟩ := Prod.mk.inj read
      obtain ⟨rfl, none⟩ := List.cons.inj items
      obtain ⟨rfl, rfl⟩ := List.append_eq_nil_iff.1 none.symm
      exact ⟨[⟨.option given, span⟩], [], rfl, rfl, rfl⟩
  | ⟨.option given, span⟩ :: next :: rest, item :: front, back, read => by
      cases taken : given.valueFrom? style next with
      | some value =>
          obtain ⟨items, complete⟩ := Prod.mk.inj ((ofTokens_taken taken span rest).symm.trans read)
          obtain ⟨rfl, others⟩ := List.cons.inj items
          obtain ⟨first, second, rfl, own, later⟩ :=
            exists_split_of_ofTokens (Prod.ext others complete)
          refine ⟨⟨.option given, span⟩ :: next :: first, second, rfl, ?_, later⟩
          rw [ofTokens_taken taken, own]
      | none =>
          have alone : ∀ other ∈ (next :: rest).head?, given.valueFrom? style other = none := by
            intro other first
            obtain rfl := Option.some.inj first
            exact taken
          obtain ⟨items, complete⟩ := Prod.mk.inj ((ofTokens_option alone).symm.trans read)
          obtain ⟨rfl, others⟩ := List.cons.inj items
          obtain ⟨first, second, same, own, later⟩ :=
            exists_split_of_ofTokens (Prod.ext others complete)
          refine ⟨⟨.option given, span⟩ :: first, second, congrArg _ same, ?_, later⟩
          rw [ofTokens_option, own]
          intro other head
          apply alone
          rw [same, List.head?_append, head]
          rfl

/-! ## Commands of a tree -/

theorem Item.infix_ofParts {commands : List CommandUse} {command : CommandUse}
    (member : command ∈ commands) (options : List OptionUse) :
    command.items <:+: ofParts commands options := by
  obtain ⟨front, back, rfl⟩ := List.append_of_mem member
  refine ⟨options.map Item.option ++ front.flatMap CommandUse.items,
    back.flatMap CommandUse.items, ?_⟩
  simp [ofParts]

theorem Item.option_infix_ofParts {options : List OptionUse} {option : OptionUse}
    (member : option ∈ options) (commands : List CommandUse) :
    [.option option] <:+: ofParts commands options := by
  obtain ⟨front, back, rfl⟩ := List.append_of_mem member
  refine ⟨front.map Item.option, back.map Item.option ++ commands.flatMap CommandUse.items, ?_⟩
  simp [ofParts]

/-- The items of a part of a tree stand together among all items. -/
theorem Node.items_infix {node : Node} :
    ∀ visited ∈ node.walk, visited.items <:+: node.items := by
  apply Node.walk_induction
  · exact List.infix_rfl
  · intro parent inside child member
    refine List.IsInfix.trans ?_ inside
    have merged : ∀ {commands options}, child ∈ merge commands options →
        child.items <:+: Item.ofParts commands options := by
      intro commands options own
      rcases mem_merge.1 own with ⟨command, below, rfl⟩ | ⟨option, given, rfl⟩
      · exact Item.infix_ofParts below options
      · exact Item.option_infix_ofParts given commands
    cases parent with
    | root tree =>
        rcases List.mem_cons.1 member with rfl | own
        · exact List.nil_infix
        · exact merged own
    | program given => cases member
    | command given =>
        rw [items, CommandUse.items_eq]
        exact (merged member).trans (List.suffix_cons ..).isInfix
    | option given =>
        obtain ⟨value, -, rfl⟩ := List.mem_map.1 member
        exact List.nil_infix
    | value given => cases member

theorem CommandUse.depth_le_depthAll {commands : List CommandUse} {command : CommandUse}
    (member : command ∈ commands) : command.depth ≤ depthAll commands := by
  induction commands with
  | nil => cases member
  | cons first rest ih =>
      rw [depthAll]
      rcases List.mem_cons.1 member with rfl | later
      · exact Nat.le_max_left ..
      · exact Nat.le_trans (ih later) (Nat.le_max_right ..)

theorem CommandUse.depth_eq (command : CommandUse) :
    command.depth = 1 + depthAll command.commands := by
  cases command
  rw [depth]

theorem Tree.depth_le_of_mem_walk {tree : Tree} {command : CommandUse}
    (visited : .command command ∈ (Node.root tree).walk) : command.depth ≤ tree.depth := by
  have within : ∀ node ∈ (Node.root tree).walk,
      CommandUse.depthAll node.commands ≤ tree.depth ∧
        ∀ given, node = .command given → given.depth ≤ tree.depth := by
    apply Node.walk_induction
    · exact ⟨Nat.le_refl _, fun given same => by cases same⟩
    · intro parent ⟨below, _⟩ child member
      rcases Node.command_or_leaf_of_child member with ⟨given, own, rfl⟩ | ⟨leaf, other⟩
      · have shallow := Nat.le_trans (CommandUse.depth_le_depthAll own) below
        refine ⟨?_, fun other same => by cases same; exact shallow⟩
        rw [given.depth_eq] at shallow
        exact Nat.le_trans (Nat.le_add_left ..) shallow
      · refine ⟨?_, fun given same => absurd same (other given)⟩
        rw [leaf]
        exact Nat.zero_le _
  exact (within _ visited).2 command rfl

section Parsed

variable {settings : Settings} {source : String} {tree : Tree} {command : CommandUse}

/-- The items of a command form this command alone. -/
theorem Tree.assemble_items (parsed : parse settings source = .ok tree)
    (visited : .command command ∈ (Node.root tree).walk) :
    Item.assemble command.items = ([], [command]) := by
  obtain ⟨below, belowOrOptions⟩ := Node.formed_of_walk (formed_of_parse parsed) _ visited
  have arranged : Arranged [command] := by
    refine .intro (by simp [Separated]) ?_ ?_
    · exact List.forall_mem_singleton.2 (belowOrOptions command rfl)
    · exact List.forall_mem_singleton.2 below.arranged
  simpa [Item.ofParts] using Item.assemble_ofParts arranged []

theorem LaidOut.of_append {quote : Char} {front back : List Token} {rest : List Char}
    (laidOut : LaidOut quote source (front ++ back) rest) : LaidOut quote source back rest := by
  induction front with
  | nil => exact laidOut
  | cons token more ih => exact ih laidOut.head_and_tail.2

/-! ## Extracts -/

/-- Pieces in the middle of a line, of which a command was read. -/
structure Middle (settings : Settings) (source : String) (command : CommandUse)
    (lead pieces behind : List Piece) (tail : List Char) : Prop where
  source_eq : source.toList = written settings.quote (lead ++ (pieces ++ behind)) tail
  spaced : Spaced (lead ++ (pieces ++ behind)) tail
  items : Item.ofTokens settings.valueStyle
    (placed settings.quote (bytes (written settings.quote lead [])) pieces) = (command.items, none)
  tokens : command.items.flatMap (Item.tokens source) =
    placed settings.quote (bytes (written settings.quote lead [])) pieces
  each : ∀ piece ∈ pieces, piece.kind.isProgram = false ∧
    piece.kind.Readable settings.quote ∧ piece.kind.CanStart settings.quote

theorem Tree.exists_middle (parsed : parse settings source = .ok tree)
    (visited : .command command ∈ (Node.root tree).walk) :
    ∃ lead pieces behind tail, Middle settings source command lead pieces behind tail := by
  obtain ⟨-, tokens, items, lexed, read, -, assembled⟩ := (parse_eq_ok_iff ..).1 parsed
  obtain ⟨before, after, around⟩ := Node.items_infix _ visited
  have whole : before ++ (command.items ++ after) = items := by
    rw [← Item.items_assemble items, assembled, ← List.append_assoc]
    exact around
  rw [← whole] at read
  obtain ⟨first, second, rfl, -, later⟩ := Item.exists_split_of_ofTokens read
  obtain ⟨own, third, rfl, ownRead, afterRead⟩ := Item.exists_split_of_ofTokens later
  obtain ⟨pieces, tail, kinds, spelled, places, spaced, legible⟩ := exists_written_of_lex lexed
  obtain ⟨lead, rest, rfl, leadPlaces, restPlaces⟩ := exists_split_of_placed
    (places.symm.trans (List.cons_append ..).symm)
  obtain ⟨mine, behind, rfl, ownPlaces, -⟩ := exists_split_of_placed restPlaces.symm
  rw [Nat.zero_add] at ownPlaces
  refine ⟨lead, mine, behind, tail, spelled, spaced, ownPlaces ▸ ownRead, ?_, ?_⟩
  · -- what stands behind the command is written from the items behind it
    obtain ⟨left, laidOut, -⟩ := lex_laidOut settings.quote source
    rw [lexed] at laidOut
    have ahead : LaidOut settings.quote source (own ++ third) left :=
      laidOut.head_and_tail.2.of_append
    have both := Item.tokens_ofTokens settings.valueStyle ahead (by rw [later])
    have rest := Item.tokens_ofTokens settings.valueStyle ahead.of_append (by rw [afterRead])
    rw [later, List.flatMap_append] at both
    rw [afterRead] at rest
    rw [rest] at both
    rw [← ownPlaces]
    exact List.append_cancel_right both
  · intro piece member
    rcases lead with - | ⟨program, more⟩
    · cases leadPlaces
    have inside : piece.kind ∈ ((program :: more ++ (mine ++ behind)).map Piece.kind).tail := by
      rw [List.cons_append, List.map_cons, List.tail_cons]
      exact List.mem_map_of_mem (by simp [member])
    rw [kinds] at inside
    have known := List.mem_of_mem_tail inside
    exact ⟨legible.programOnce _ inside, legible.readable _ known, legible.canStart _ known⟩

/-- The pieces of a command, as far as its text reaches. -/
structure Extract (settings : Settings) (source : String) (command : CommandUse)
    (pieces : List Piece) : Prop where
  text : (Node.command command).text source = String.ofList (written settings.quote pieces [])
  items : Item.ofTokens settings.valueStyle
    (placed settings.quote command.span.position pieces) = (command.items, none)
  spaced : Spaced pieces []
  unindented : ∀ piece ∈ pieces.head?, piece.gap = []
  each : ∀ piece ∈ pieces, piece.kind.isProgram = false ∧
    piece.kind.Readable settings.quote ∧ piece.kind.CanStart settings.quote

/-- A command starts behind the blanks in front of its name. -/
theorem Middle.extract {gap : List Char} {kind : Token.Kind} {lead more behind : List Piece}
    {tail : List Char}
    (middle : Middle settings source command lead (⟨gap, kind⟩ :: more) behind tail)
    (located : ItemsLocated source command.items) :
    Extract settings source command (⟨[], kind⟩ :: more) := by
  have extent := CommandUse.extent located
  obtain ⟨token, last, stop⟩ := extent.last
  have first := extent.first
  rw [Node.walk_command_tokens command located, middle.tokens] at first last
  have named : (⟨.command command.name, command.nameSpan⟩ : Token) =
      kind.placed settings.quote (bytes (written settings.quote lead []) + bytes gap) :=
    (Option.some.inj first).symm
  have position : command.span.position =
      bytes (written settings.quote lead [] ++ gap) := by
    rw [extent.position, congrArg (·.span.position) named, Text.bytes_append]
    rfl
  have reaches := stop_of_getLast?_placed last
  have length : command.span.length =
      bytes (written settings.quote (⟨[], kind⟩ :: more) []) := by
    rw [Span.length_eq, ← stop, reaches, position]
    simp only [written_cons, Piece.text, Text.bytes_append, List.nil_append]
    omega
  have whole : source.toList = written settings.quote lead [] ++ gap ++
      written settings.quote (⟨[], kind⟩ :: more) [] ++ written settings.quote behind tail := by
    rw [middle.source_eq, written_append, written_append, written_cons, written_cons]
    simp [Piece.text]
  refine ⟨?_, ?_, ⟨?_, by simp, ?_⟩, ?_, ?_⟩
  · have span : command.span = ⟨bytes (written settings.quote lead [] ++ gap),
        bytes (written settings.quote (⟨[], kind⟩ :: more) [])⟩ := by
      rw [← position, ← length]
    rw [Node.text, Node.span, span, Span.slice?_of_append _ whole]
    rfl
  · rw [position, ← middle.items, placed, placed]
    simp [Piece.text, Nat.add_assoc]
  · refine List.forall_mem_cons.2 ⟨by simp, fun piece member => ?_⟩
    exact middle.spaced.gaps piece (by simp [member])
  · have chain := middle.spaced.apart.right_of_append.left_of_append
    exact List.isChain_cons.2 (List.isChain_cons.1 chain)
  · intro piece first
    obtain rfl := Option.some.inj first
    rfl
  · obtain ⟨here, further⟩ := List.forall_mem_cons.1 middle.each
    exact List.forall_mem_cons.2 ⟨here, further⟩

theorem Tree.exists_extract (parsed : parse settings source = .ok tree)
    (visited : .command command ∈ (Node.root tree).walk) :
    ∃ pieces, Extract settings source command pieces := by
  have root : (Node.root tree).Located source := located_of_parse parsed
  have located : ItemsLocated source command.items := root.of_mem_walk visited
  obtain ⟨lead, pieces, behind, tail, middle⟩ := exists_middle parsed visited
  rcases pieces with - | ⟨⟨gap, kind⟩, more⟩
  · exact absurd (Prod.mk.inj middle.items).1.symm command.items_ne_nil
  · exact ⟨_, middle.extract located⟩

/-! ## Extracts behind another program name -/

theorem Extract.lex_behind {pieces : List Piece}
    (extract : Extract settings source command pieces) {word : String}
    (bare : Bare settings.quote word) :
    lex settings.quote (word ++ " " ++ (Node.command command).text source) =
      ⟨⟨.program ⟨word, false⟩, ⟨0, bytes word.toList⟩⟩ ::
        placed settings.quote (bytes word.toList + 1) pieces, none⟩ := by
  rcases pieces with - | ⟨⟨gap, kind⟩, more⟩
  · exact absurd (Prod.mk.inj extract.items).1.symm command.items_ne_nil
  obtain rfl : gap = [] := extract.unindented _ rfl
  let program : Piece := ⟨[], .program ⟨word, false⟩⟩
  let line : List Piece := program :: ⟨[' '], kind⟩ :: more
  have spaced : Spaced line [] := by
    obtain ⟨-, gaps⟩ := List.forall_mem_cons.1 extract.spaced.gaps
    refine ⟨?_, by simp, ?_⟩
    · refine List.forall_mem_cons.2 ⟨by simp [program], List.forall_mem_cons.2 ⟨?_, gaps⟩⟩
      exact List.forall_mem_singleton.2 rfl
    · refine List.isChain_cons_cons.2 ⟨fun _ => List.cons_ne_nil _ _, ?_⟩
      exact List.isChain_cons.2 (List.isChain_cons.1 extract.spaced.apart)
  have legible : Legible settings.quote (line.map Piece.kind) := by
    have kinds : ∀ other ∈ line.tail.map Piece.kind, other.isProgram = false ∧
        other.Readable settings.quote ∧ other.CanStart settings.quote :=
      List.forall_mem_map.2 (List.forall_mem_cons.2 (List.forall_mem_cons.1 extract.each))
    refine ⟨?_, fun other member => (kinds other member).1, ?_, ?_⟩
    · intro other first
      obtain rfl := Option.some.inj first
      rfl
    · exact List.forall_mem_cons.2 ⟨bare, fun other member => (kinds other member).2.1⟩
    · refine List.forall_mem_cons.2 ⟨?_, fun other member => (kinds other member).2.2⟩
      intro quoted
      cases quoted
  have text : word ++ " " ++ (Node.command command).text source =
      String.ofList (written settings.quote line []) := by
    rw [extract.text, ← String.toList_inj]
    simp [line, program, written, Piece.text, Token.Kind.spelling, Literal.spelling]
  have behind : placed settings.quote (bytes word.toList) (⟨[' '], kind⟩ :: more) =
      placed settings.quote (bytes word.toList + 1) (⟨[], kind⟩ :: more) := by
    simp [placed, Piece.text, Char.utf8Size, Nat.add_assoc]
  rw [text, lex_written legible spaced, ← behind]
  simp [line, program, placed, Piece.text, Token.Kind.placed, Token.Kind.spelling,
    Literal.spelling]

/-- Pieces form the items of the command wherever they are placed. -/
theorem Extract.exists_items {pieces : List Piece}
    (extract : Extract settings source command pieces) (start : Nat) :
    ∃ items, Item.ofTokens settings.valueStyle (placed settings.quote start pieces) =
        (items, none) ∧
      items.map (Item.mapSpans (Span.shifted command.span.position)) =
        command.items.map (Item.mapSpans (Span.shifted start)) := by
  -- both ways lead to the tokens that are placed at the sum of the two offsets
  have there := Item.ofTokens_map_mapSpans (Span.shifted command.span.position)
    settings.valueStyle (placed settings.quote start pieces)
  have here := Item.ofTokens_map_mapSpans (Span.shifted start) settings.valueStyle
    (placed settings.quote command.span.position pieces)
  rw [← placed_add] at there here
  rw [Nat.add_comm, there, extract.items] at here
  obtain ⟨items, complete⟩ := Prod.mk.inj here
  exact ⟨_, Prod.ext rfl (Option.map_eq_none_iff.1 complete), items⟩

/-- The text of a command behind any program name is read as this command alone, all spans
moved as far as its text was. -/
theorem Tree.parse_extract (parsed : parse settings source = .ok tree)
    (visited : .command command ∈ (Node.root tree).walk) {word : String}
    (bare : Bare settings.quote word) :
    let line := word ++ " " ++ (Node.command command).text source
    ∃ moved, parse settings line =
        .ok ⟨line, ⟨⟨word, false⟩, ⟨0, bytes word.toList⟩⟩, [moved], []⟩ ∧
      moved.mapSpans (Span.shifted command.span.position) =
        command.mapSpans (Span.shifted (bytes word.toList + 1)) := by
  intro line
  obtain ⟨pieces, extract⟩ := exists_extract parsed visited
  obtain ⟨items, read, same⟩ := extract.exists_items (bytes word.toList + 1)
  have own := assemble_items parsed visited
  have formed := Item.assemble_map_mapSpans (Span.shifted (bytes word.toList + 1)) command.items
  rw [← same, Item.assemble_map_mapSpans, own] at formed
  obtain ⟨options, commands⟩ := Prod.mk.inj formed
  obtain ⟨moved, single, image⟩ := List.map_eq_singleton_iff.1 commands
  have shallow : Item.tooDeep? settings.maxDepth 1 items = none := by
    have within : Item.tooDeep? settings.maxDepth 1 command.items = none := by
      have fits := (exists_parse_iff_depth_le parsed settings.maxDepth).1 ⟨tree, parsed⟩
      rw [Item.tooDeep?_one_eq_none_iff, own]
      exact Nat.max_le.2 ⟨Nat.le_trans (depth_le_of_mem_walk visited) fits, Nat.zero_le _⟩
    have alike := Item.tooDeep?_map_mapSpans (Span.shifted command.span.position)
      settings.maxDepth 1 items
    rw [same, Item.tooDeep?_map_mapSpans, within] at alike
    exact Option.map_eq_none_iff.1 alike.symm
  refine ⟨moved, (parse_eq_ok_iff ..).2 ⟨rfl, _, items, extract.lex_behind bare, read, shallow, ?_⟩,
    image⟩
  exact Prod.ext (List.map_eq_nil_iff.1 options) single

end Parsed

theorem Tree.parse_extract_of_nested_command :
    let settings : Settings := ⟨'"', .nextToken, 2⟩
    let source := "ö a  b -n \"ä c\" d"
    let number : OptionUse := ⟨"n", ⟨8, 2⟩, .short, some ⟨⟨"ä c", true⟩, ⟨11, 6⟩⟩⟩
    let below : CommandUse := ⟨"b", ⟨6, 1⟩, [], [number]⟩
    let top : CommandUse := ⟨"a", ⟨3, 1⟩, [below, ⟨"d", ⟨18, 1⟩, [], []⟩], []⟩
    let tree : Tree := ⟨source, ⟨⟨"ö", false⟩, ⟨0, 2⟩⟩, [top], []⟩
    let line := "-é" ++ " " ++ (Node.command below).text source
    parse settings source = .ok tree ∧ .command below ∈ (Node.root tree).walk ∧
      Bare settings.quote "-é" ∧ line = "-é b -n \"ä c\"" ∧
      ∃ moved, parse settings line = .ok ⟨line, ⟨⟨"-é", false⟩, ⟨0, 3⟩⟩, [moved], []⟩ ∧
        moved.mapSpans (Span.shifted 6) = below.mapSpans (Span.shifted 4) := by
  intro settings source number below top tree line
  have parsed : parse settings source = .ok tree := by
    rw [parse_eq_ofLexed]
    decide +kernel
  have visited : .command below ∈ (Node.root tree).walk := by
    have own : .command top ∈ (Node.root tree).children :=
      List.mem_cons_of_mem _ (Node.mem_merge.2 (.inl ⟨top, List.mem_singleton.2 rfl, rfl⟩))
    refine Node.mem_walk_of_child own (Node.mem_walk_of_below List.mem_cons_self ?_)
    rw [Node.walk_eq]
    exact List.mem_cons_self
  have bare : Bare settings.quote "-é" := by decide
  have text : "-é" ++ " " ++ (Node.command below).text source = "-é b -n \"ä c\"" := by
    decide +kernel
  exact ⟨parsed, visited, bare, text, parse_extract parsed visited bare⟩

end CommandLine
