import CommandLine.Cli.Arguments
import CommandLine.Proofs.Token.Tokenize
import CommandLine.Proofs.Tree.Arranged
import CommandLine.Proofs.Tree.Parse

/-!
# Printed trees

A tree is printed as a line of its program name, its options and its commands, each
command before its options and these before the commands below it.  If its words can be
told apart and its commands are arranged, reading the line gives the tree back up to
spans: `parse_printed`.  Where options take values from the next token, no option may
lack a value right before a command.
-/

set_option autoImplicit false

namespace CommandLine

open Text (bytes)

theorem Cli.readQuote_eq_ok {text : String} {quote : Char} (accepted : readQuote text = .ok quote) :
    Text.isBlank quote = false ∧ quote ≠ '-' := by
  unfold readQuote at accepted
  split at accepted
  · split at accepted
    · cases accepted
    · cases accepted
      simp_all
  · cases accepted

def Item.kind : Item → Token.Kind
  | .command name _ => .command name
  | .option given => .option given

def Tree.kinds (tree : Tree) : List Token.Kind :=
  .program tree.program.literal :: (Item.ofParts tree.commands tree.options).map Item.kind

/-- An option without a value is not followed by a command, which it would take. -/
def Item.Apart : Item → Item → Prop
  | .option given, .command _ _ => given.value? ≠ none
  | _, _ => True

instance : (item next : Item) → Decidable (Item.Apart item next)
  | .option given, .command _ _ => inferInstanceAs (Decidable (given.value? ≠ none))
  | .option _, .option _ => inferInstanceAs (Decidable True)
  | .command _ _, _ => inferInstanceAs (Decidable True)

/-! ## Tokens of printed items -/

/-- An option takes nothing from an item that stands apart from it. -/
theorem Item.valueFrom?_placed {quote : Char} {style : ValueStyle} {given : OptionUse}
    {next : Item} (apart : style = .nextToken → Item.Apart (.option given) next)
    (start nextStart : Nat) :
    (given.placed quote start).valueFrom? style (next.kind.placed quote nextStart) = none := by
  rw [Option.eq_none_iff_forall_not_mem]
  intro value taken
  obtain ⟨rfl, bare, sort⟩ := (OptionUse.valueFrom?_eq_some_iff ..).1 taken
  cases next with
  | command name span => exact apart rfl (Option.map_eq_none_iff.1 bare)
  | option other => cases sort

/-- Tokens of printed items are read as these items again. -/
theorem Item.ofTokens_placed {style : ValueStyle} {items : List Item} {pieces : List Piece}
    (printed : pieces.map Piece.kind = items.map Item.kind)
    (apart : style = .nextToken → items.IsChain Item.Apart) (quote : Char) (start : Nat) :
    ∃ read, ofTokens style (placed quote start pieces) = (read, none) ∧
      read.map Item.unplaced = items.map Item.unplaced := by
  induction items generalizing pieces start with
  | nil =>
      obtain rfl : pieces = [] := by simpa using printed
      exact ⟨[], rfl, rfl⟩
  | cons item rest ih =>
      rcases pieces with - | ⟨⟨gap, kind⟩, more⟩
      · cases printed
      obtain ⟨rfl, others⟩ := List.cons.inj printed
      obtain ⟨read, formed, same⟩ := ih others (fun next => (List.isChain_cons.1 (apart next)).2)
        (start + bytes (Piece.text quote ⟨gap, item.kind⟩))
      -- an option must not take the first token of what was printed behind it
      have alone : ∀ given, item = .option given →
          ∀ next ∈ (placed quote (start + bytes (Piece.text quote ⟨gap, item.kind⟩)) more).head?,
            (given.placed quote (start + bytes gap)).valueFrom? style next = none := by
        rintro given rfl next first
        rcases more with - | ⟨second, further⟩
        · cases first
        rcases rest with - | ⟨nextItem, items⟩
        · cases others
        obtain ⟨nextKind, -⟩ := List.cons.inj others
        obtain rfl : _ = next := Option.some.inj first
        rw [nextKind]
        exact valueFrom?_placed (fun style => (List.isChain_cons.1 (apart style)).1 _ rfl) _ _
      rw [placed]
      generalize placed quote (start + bytes (Piece.text quote ⟨gap, item.kind⟩)) more = behind
        at formed alone ⊢
      cases item with
      | command name nameSpan =>
          refine ⟨.command name ⟨start + bytes gap, bytes name.toList⟩ :: read, ?_, ?_⟩
          · change ofTokens style (⟨.command name, ⟨_, bytes name.toList⟩⟩ :: behind) = _
            rw [ofTokens, formed]
          · rw [List.map_cons, same]
            rfl
      | option given =>
          refine ⟨.option (given.placed quote (start + bytes gap)) :: read, ?_, ?_⟩
          · refine (ofTokens_option (alone given rfl)).trans ?_
            rw [formed]
          · rw [List.map_cons, same]
            simp [unplaced]

/-! ## Printed trees -/

/-- A quote that the command line accepts can open what it quotes, and no option. -/
theorem Cli.legible_kinds {quoteText : String} {quote : Char} {tree : Tree}
    (accepted : readQuote quoteText = .ok quote)
    (readable : ∀ kind ∈ tree.kinds, kind.Readable quote) : Legible quote tree.kinds := by
  obtain ⟨visible, undashed⟩ := readQuote_eq_ok accepted
  refine ⟨?_, ?_, readable, ?_⟩
  · intro kind first
    obtain rfl : _ = kind := Option.some.inj first
    rfl
  · intro kind member
    obtain ⟨item, -, rfl⟩ := List.mem_map.1 member
    cases item <;> rfl
  · intro kind member
    rcases List.mem_cons.1 member with rfl | later
    · exact fun _ => visible
    · obtain ⟨item, -, rfl⟩ := List.mem_map.1 later
      cases item with
      | command name nameSpan => trivial
      | option given => exact undashed

/-- A printed tree is read back, up to its spans. -/
theorem parse_printed {settings : Settings} {quoteText : String} {tree : Tree}
    {pieces : List Piece} {tail : List Char}
    (accepted : Cli.readQuote quoteText = .ok settings.quote)
    (readable : ∀ kind ∈ tree.kinds, kind.Readable settings.quote)
    (arranged : Arranged tree.commands) (shallow : tree.depth ≤ settings.maxDepth)
    (apart : settings.valueStyle = .nextToken →
      (Item.ofParts tree.commands tree.options).IsChain Item.Apart)
    (printed : pieces.map Piece.kind = tree.kinds) (spaced : Spaced pieces tail) :
    ∃ parsed,
      Tree.parse settings (String.ofList (written settings.quote pieces tail)) = .ok parsed ∧
        parsed.unplaced = tree.unplaced := by
  have legible := Cli.legible_kinds accepted readable
  rw [← printed] at legible
  have lexed := lex_written legible spaced
  rcases pieces with - | ⟨⟨gap, kind⟩, rest⟩
  · cases printed
  obtain ⟨rfl, others⟩ := List.cons.inj printed
  rw [placed] at lexed
  obtain ⟨read, formed, same⟩ := Item.ofTokens_placed others apart settings.quote
    (0 + bytes (Piece.text settings.quote ⟨gap, .program tree.program.literal⟩))
  have shallowRead : Item.tooDeep? settings.maxDepth 1 read = none := by
    rw [← Item.tooDeep?_map_unplaced_eq_none_iff, same, Item.tooDeep?_map_unplaced_eq_none_iff,
      Item.tooDeep?_one_eq_none_iff, Item.assemble_ofParts arranged]
    exact shallow
  have parts := Item.assemble_map_unplaced read
  rw [same, Item.assemble_map_unplaced, Item.assemble_ofParts arranged] at parts
  obtain ⟨options, commands⟩ := Prod.mk.inj parts
  let program : Value := ⟨tree.program.literal,
    ⟨0 + bytes gap, bytes (tree.program.literal.spelling settings.quote)⟩⟩
  refine ⟨⟨_, program, (Item.assemble read).2, (Item.assemble read).1⟩,
    (Tree.parse_eq_ok_iff ..).2 ⟨rfl, _, read, lexed, formed, shallowRead, rfl⟩, ?_⟩
  rw [Tree.unplaced, ← options, ← commands]
  rfl

theorem parse_printed_with_glued_command :
    let settings : Settings := ⟨'«', .nextToken, 2⟩
    let quoted : OptionUse := ⟨"-n", .point 0, .long, some ⟨⟨"= -y", true⟩, .point 0⟩⟩
    let bare : OptionUse := ⟨"v", .point 0, .short, none⟩
    let below : CommandUse := ⟨"c", .point 0, [], [bare, bare]⟩
    let tree : Tree := ⟨"", ⟨⟨"-my app", true⟩, .point 0⟩,
      [⟨"a", .point 0, [], [quoted]⟩, ⟨"b", .point 0, [below], []⟩], []⟩
    let pieces : List Piece := [⟨[], .program ⟨"-my app", true⟩⟩, ⟨[], .command "a"⟩,
      ⟨['\t'], .option quoted⟩, ⟨[], .command "b"⟩, ⟨[' '], .command "c"⟩,
      ⟨[' '], .option bare⟩, ⟨[' '], .option bare⟩]
    Cli.readQuote "«" = .ok settings.quote ∧
      (∀ kind ∈ tree.kinds, kind.Readable settings.quote) ∧ Arranged tree.commands ∧
      tree.depth ≤ settings.maxDepth ∧
      (settings.valueStyle = .nextToken →
        (Item.ofParts tree.commands tree.options).IsChain Item.Apart) ∧
      pieces.map Piece.kind = tree.kinds ∧ Spaced pieces [' '] ∧
      ∃ parsed,
        Tree.parse settings (String.ofList (written settings.quote pieces [' '])) = .ok parsed ∧
          parsed.unplaced = tree.unplaced := by
  intro settings quoted bare below tree pieces
  have accepted : Cli.readQuote "«" = .ok settings.quote := by decide
  have readable : ∀ kind ∈ tree.kinds, kind.Readable settings.quote := by decide
  have arranged : Arranged tree.commands :=
    Formed.arranged ⟨Item.ofParts tree.commands tree.options, rfl⟩
  have shallow : tree.depth ≤ settings.maxDepth := by decide
  have apart : settings.valueStyle = .nextToken →
    (Item.ofParts tree.commands tree.options).IsChain Item.Apart := by decide
  have printed : pieces.map Piece.kind = tree.kinds := by decide
  have spaced : Spaced pieces [' '] := by decide
  exact ⟨accepted, readable, arranged, shallow, apart, printed, spaced,
    parse_printed accepted readable arranged shallow apart printed spaced⟩

end CommandLine
