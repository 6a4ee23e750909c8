import CommandLine.Proofs.Tree.Printed

/-!
# Trees without places

What comes of reading a source, but for its spans, can be told from its tokens without
theirs: reading these instead gives the same tree or the same error (`ofLexed_unplaced`).
So sources whose tokens differ in nothing but their spans have trees, or errors, that
differ in nothing else (`unplacedResult_parse_eq`), and a source whose tokens a tree prints
is read as that tree at some places (`Tree.exists_parse_of_kinds`).
-/

set_option autoImplicit false

namespace CommandLine

def LexError.unplaced : LexError → LexError
  | .unterminatedQuote quote _ => .unterminatedQuote quote (.point 0)
  | .malformedOption text reason _ => .malformedOption text reason (.point 0)

def SyntaxError.unplaced : SyntaxError → SyntaxError
  | .lexical error => .lexical error.unplaced
  | .unexpectedToken expected found _ => .unexpectedToken expected found (.point 0)
  | .nestingTooDeep limit _ => .nestingTooDeep limit (.point 0)

def unplacedResult : Except SyntaxError Tree → Except SyntaxError Tree
  | .ok tree => .ok tree.unplaced
  | .error error => .error error.unplaced

theorem SyntaxError.unplaced_unexpected (expected : String) (token : Token) :
    (SyntaxError.unexpected expected token).unplaced =
      .unexpected expected (token.moved fun _ => 0) := by
  rw [unexpected, unexpected, Token.describe_moved]
  rfl

theorem Ahead.unplaced_settle (limit : Nat) (items : List Item) (misplaced : Option Token)
    (tree : Tree) :
    unplacedResult (Ahead.settle limit 1
        ⟨items, misplaced.map (SyntaxError.unexpected "a command or an option")⟩ tree) =
      Ahead.settle limit 1
        ⟨items.map (Item.moved fun _ => 0), (misplaced.map (Token.moved fun _ => 0)).map
          (SyntaxError.unexpected "a command or an option")⟩ tree.unplaced := by
  unfold settle
  rw [Item.tooDeep?_map_moved]
  cases Item.tooDeep? limit 1 items with
  | some nameSpan => rfl
  | none =>
      cases misplaced with
      | none => rfl
      | some token => exact congrArg Except.error (SyntaxError.unplaced_unexpected _ token)

/-- Reading tokens whose places were wiped out gives the result without its places. -/
theorem Tree.ofLexed_unplaced (settings : Settings) (source : String) (tokens : List Token) :
    Tree.ofLexed settings "" ⟨tokens.map (Token.moved fun _ => 0), none⟩ =
      unplacedResult (Tree.ofLexed settings source ⟨tokens, none⟩) := by
  rcases tokens with - | ⟨⟨kind, span⟩, rest⟩
  · rfl
  · cases kind with
    | command name => exact congrArg Except.error (SyntaxError.unplaced_unexpected _ _).symm
    | option given => exact congrArg Except.error (SyntaxError.unplaced_unexpected _ _).symm
    | value literal => exact congrArg Except.error (SyntaxError.unplaced_unexpected _ _).symm
    | program literal =>
        change Tree.ofLexed settings ""
          ⟨⟨.program literal, .point 0⟩ :: rest.map (Token.moved fun _ => 0), none⟩ = _
        simp only [ofLexed, Lexed.ahead, Item.ofTokens_map_moved, Item.assemble_map_moved,
          Option.map_none, Option.or_none, Ahead.unplaced_settle, Tree.unplaced,
          CommandUse.moved_zero]
        rfl

theorem Token.map_moved_zero (tokens : List Token) :
    tokens.map (Token.moved fun _ => 0) =
      (tokens.map fun token => token.kind.unplaced).map fun kind => ⟨kind, .point 0⟩ := by
  rw [List.map_map]
  refine List.map_congr_left fun token _ => ?_
  simp [Token.moved, Token.Kind.moved_zero, Span.moved]

/-- Tokens that are the same up to spans form items that are. -/
theorem Item.map_unplaced_eq_of_kinds {style : ValueStyle} {tokens others : List Token}
    (same : tokens.map (fun token => token.kind.unplaced) =
      others.map fun token => token.kind.unplaced) :
    (ofTokens style tokens).1.map unplaced = (ofTokens style others).1.map unplaced := by
  have wiped : tokens.map (Token.moved fun _ => 0) = others.map (Token.moved fun _ => 0) := by
    rw [Token.map_moved_zero, Token.map_moved_zero, same]
  have read := congrArg (ofTokens style) wiped
  rw [ofTokens_map_moved, ofTokens_map_moved, moved_zero] at read
  exact (Prod.mk.inj read).1

/-- Sources whose tokens are the same up to spans are read alike. -/
theorem unplacedResult_parse_eq {settings : Settings} {source other : String}
    {tokens others : List Token} (cut : lex settings.quote source = ⟨tokens, none⟩)
    (otherCut : lex settings.quote other = ⟨others, none⟩)
    (same : tokens.map (fun token => token.kind.unplaced) =
      others.map fun token => token.kind.unplaced) :
    unplacedResult (Tree.parse settings source) = unplacedResult (Tree.parse settings other) := by
  rw [Tree.parse_eq_ofLexed, Tree.parse_eq_ofLexed, cut, otherCut, ← Tree.ofLexed_unplaced,
    ← Tree.ofLexed_unplaced, Token.map_moved_zero, Token.map_moved_zero, same]

/-- Results that are the same up to spans are both trees or both errors. -/
theorem cases_of_unplacedResult_eq {result other : Except SyntaxError Tree}
    (same : unplacedResult result = unplacedResult other) :
    (∃ tree otherTree, result = .ok tree ∧ other = .ok otherTree ∧
      tree.unplaced = otherTree.unplaced) ∨
    ∃ error otherError, result = .error error ∧ other = .error otherError ∧
      error.unplaced = otherError.unplaced := by
  cases result with
  | ok tree =>
      cases other with
      | ok otherTree => exact .inl ⟨tree, otherTree, rfl, rfl, Except.ok.inj same⟩
      | error otherError => cases same
  | error error =>
      cases other with
      | ok otherTree => cases same
      | error otherError => exact .inr ⟨error, otherError, rfl, rfl, Except.error.inj same⟩

/-! ## Sources of a given tree -/

/-- Tokens of items without places are read as these items, if none of these takes another. -/
theorem Item.ofTokens_kinds {style : ValueStyle} {items : List Item}
    (apart : style = .nextToken → items.IsChain Item.Apart) :
    ofTokens style (items.map fun item => ⟨item.kind.unplaced, .point 0⟩) =
      (items.map unplaced, none) := by
  let pieces : List Piece := items.map fun item => ⟨[], item.kind⟩
  have printed : pieces.map Piece.kind = items.map Item.kind := by simp [pieces]
  obtain ⟨read, formed, same⟩ := ofTokens_placed printed apart '"' 0
  have wiped := ofTokens_map_moved (fun _ => 0) style (placed '"' 0 pieces)
  rw [formed, Token.map_moved_zero, unplaced_placed, moved_zero] at wiped
  simpa [pieces, same, Function.comp_def] using wiped

/-- A source with the tokens of an arranged tree, up to spans, has this tree up to spans. -/
theorem Tree.exists_parse_of_kinds {settings : Settings} {source : String} {tokens : List Token}
    {tree : Tree} (apart : settings.valueStyle = .nextToken →
      (Item.ofParts tree.commands tree.options).IsChain Item.Apart)
    (cut : lex settings.quote source = ⟨tokens, none⟩)
    (kinds : tokens.map (fun token => token.kind.unplaced) = tree.kinds.map Token.Kind.unplaced)
    (arranged : Arranged tree.commands) (shallow : tree.depth ≤ settings.maxDepth) :
    ∃ parsed, parse settings source = .ok parsed ∧ parsed.unplaced = tree.unplaced := by
  have within : Item.tooDeep? settings.maxDepth 1
      ((Item.ofParts tree.commands tree.options).map Item.unplaced) = none := by
    rw [Item.tooDeep?_map_unplaced_eq_none_iff, Item.tooDeep?_one_eq_none_iff,
      Item.assemble_ofParts arranged]
    exact shallow
  have result : unplacedResult (parse settings source) = unplacedResult (.ok tree) := by
    rw [parse_eq_ofLexed, cut, ← ofLexed_unplaced, Token.map_moved_zero, kinds, Tree.kinds,
      List.map_cons, List.map_cons, List.map_map, List.map_map]
    change ofLexed settings "" ⟨⟨.program tree.program.literal, .point 0⟩ ::
      (Item.ofParts tree.commands tree.options).map
        (fun item => ⟨item.kind.unplaced, .point 0⟩), none⟩ = _
    simp only [ofLexed, Lexed.ahead, Item.ofTokens_kinds apart, Item.assemble_map_unplaced,
      Item.assemble_ofParts arranged]
    exact (Ahead.settle_eq_ok_iff ..).2 ⟨within, rfl, rfl⟩
  rcases cases_of_unplacedResult_eq result with
    ⟨parsed, own, found, given, same⟩ | ⟨error, other, found, given, same⟩
  · cases given
    exact ⟨parsed, found, same⟩
  · cases given

end CommandLine
