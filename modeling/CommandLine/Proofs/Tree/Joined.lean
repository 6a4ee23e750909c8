import CommandLine.Proofs.Tree.Unplaced
import Mathlib.Control.Monad.Basic

/-!
# Joined values

An option may take its value from the next token.  If each such value is joined to its option
by an equals sign in place of the blanks between them, the two ways to find values agree: both
read the new source as the tree of the old one, up to spans (`Tree.parse_joined`).

The proof goes along the pieces of the source.  `Joins` follows the reading of their tokens as
items and joins pieces on the way; all that is needed of the new line is then one induction
over it each.
-/

set_option autoImplicit false

namespace CommandLine

open Text (bytes)

/-! ## Joining -/

def Span.replaced (span : Span) (new text : List Char) : List Char :=
  match Text.splitAt? text span.position, Text.splitAt? text span.stop with
  | some (front, _), some (_, back) => front ++ new ++ back
  | _, _ => text

/-- What lies between an option and a value that it took from the next token. -/
def OptionUse.gap? (source : String) (option : OptionUse) : Option Span :=
  (option.value?.filter fun value => !value.isAttached source).map fun value =>
    .ofRange option.nameSpan.stop value.span.position

def Item.gap? (source : String) : Item → Option Span
  | .command _ _ => none
  | .option given => given.gap? source

def Tree.gaps (tree : Tree) : List Span :=
  (Item.ofParts tree.commands tree.options).filterMap (Item.gap? tree.source)

/-- Puts an equals sign in the place of each gap, the last one first: the other spans stay
where they are. -/
def joinGaps (gaps : List Span) (text : List Char) : List Char :=
  gaps.foldr (fun gap joined => gap.replaced ['='] joined) text

def Tree.joined (tree : Tree) : String :=
  String.ofList (joinGaps tree.gaps tree.source.toList)

theorem Span.replaced_append (span : Span) {front inside : List Char} (new back : List Char)
    (start : bytes front = span.position) (stop : bytes (front ++ inside) = span.stop) :
    span.replaced new (front ++ inside ++ back) = front ++ new ++ back := by
  have first : Text.splitAt? (front ++ inside ++ back) span.position =
      some (front, inside ++ back) := by
    rw [← start, List.append_assoc, Text.splitAt?_bytes_append]
  rw [replaced, first, ← stop, Text.splitAt?_bytes_append]

/-! ## Pieces of a joined line -/

/-- From an offset on, the tokens of some pieces are read as items, and the pieces are joined
where an option takes the token behind it; the gaps there are listed. -/
inductive Joins (quote : Char) :
    Nat → List Piece → List Item → List Span → List Piece → Prop
  | nil (start : Nat) : Joins quote start [] [] [] []
  | command {start : Nat} {rest joined : List Piece} {items : List Item} {gaps : List Span}
      (gap : List Char) (name : String)
      (further : Joins quote (start + bytes (Piece.text quote ⟨gap, .command name⟩)) rest items
        gaps joined) :
      Joins quote start (⟨gap, .command name⟩ :: rest)
        (.command name ⟨start + bytes gap, bytes name.toList⟩ :: items) gaps
        (⟨gap, .command name⟩ :: joined)
  | option {start : Nat} {rest joined : List Piece} {items : List Item} {gaps : List Span}
      (gap : List Char) (given : OptionUse)
      (further : Joins quote (start + bytes (Piece.text quote ⟨gap, .option given⟩)) rest items
        gaps joined) :
      Joins quote start (⟨gap, .option given⟩ :: rest)
        (.option (given.placed quote (start + bytes gap)) :: items) gaps
        (⟨gap, .option given⟩ :: joined)
  | taken {start : Nat} {next : Piece} {rest joined : List Piece} {items : List Item}
      {gaps : List Span} (gap : List Char) (given : OptionUse) (value : Value)
      (bare : given.value? = none)
      (asValue : (next.kind.placed quote
        (start + bytes (Piece.text quote ⟨gap, .option given⟩) + bytes next.gap)).asValue? =
          some value)
      (further : Joins quote (start + bytes (Piece.text quote ⟨gap, .option given⟩) +
        bytes (next.text quote)) rest items gaps joined) :
      Joins quote start (⟨gap, .option given⟩ :: next :: rest)
        (.option { given.placed quote (start + bytes gap) with value? := some value } :: items)
        (⟨start + bytes (Piece.text quote ⟨gap, .option given⟩), bytes next.gap⟩ :: gaps)
        (⟨gap, .option { given with value? := some value }⟩ :: joined)

/-- Pieces whose tokens are read as items can be joined on the way. -/
theorem exists_joins {quote : Char} : ∀ (pieces : List Piece) (start : Nat) {items : List Item},
    Item.ofTokens .nextToken (placed quote start pieces) = (items, none) →
    ∃ gaps joined, Joins quote start pieces items gaps joined
  | [], start, items, formed => by
      obtain ⟨rfl, -⟩ := Prod.mk.inj formed
      exact ⟨[], [], .nil start⟩
  | ⟨gap, .program literal⟩ :: rest, start, items, formed => by cases (Prod.mk.inj formed).2
  | ⟨gap, .value literal⟩ :: rest, start, items, formed => by cases (Prod.mk.inj formed).2
  | ⟨gap, .command name⟩ :: rest, start, items, formed => by
      obtain ⟨rfl, complete⟩ := Prod.mk.inj formed
      obtain ⟨gaps, joined, further⟩ := exists_joins rest _ (Prod.ext rfl complete)
      exact ⟨_, _, .command gap name further⟩
  | [⟨gap, .option given⟩], start, items, formed => by
      obtain ⟨rfl, -⟩ := Prod.mk.inj formed
      exact ⟨_, _, .option gap given (.nil _)⟩
  | ⟨gap, .option given⟩ :: next :: rest, start, items, formed => by
      let after := start + bytes (Piece.text quote ⟨gap, .option given⟩)
      cases taken : (given.placed quote (start + bytes gap)).valueFrom? .nextToken
          (next.kind.placed quote (after + bytes next.gap)) with
      | some value =>
          have read := (Item.ofTokens_taken taken _ _).symm.trans formed
          obtain ⟨rfl, complete⟩ := Prod.mk.inj read
          obtain ⟨-, bare, asValue⟩ := (OptionUse.valueFrom?_eq_some_iff ..).1 taken
          obtain ⟨gaps, joined, further⟩ := exists_joins rest _ (Prod.ext rfl complete)
          exact ⟨_, _, .taken gap given value (Option.map_eq_none_iff.1 bare) asValue further⟩
      | none =>
          have alone : ∀ other ∈ (placed quote after (next :: rest)).head?,
              (given.placed quote (start + bytes gap)).valueFrom? .nextToken other = none := by
            intro other first
            obtain rfl : _ = other := Option.some.inj first
            exact taken
          have read := (Item.ofTokens_option alone).symm.trans formed
          obtain ⟨rfl, complete⟩ := Prod.mk.inj read
          obtain ⟨gaps, joined, further⟩ := exists_joins (next :: rest) _ (Prod.ext rfl complete)
          exact ⟨_, _, .option gap given further⟩

/-- An option that stands right before a command has a value. -/
theorem Item.isChain_apart_ofTokens (tokens : List Token) :
    (ofTokens .nextToken tokens).1.IsChain Apart := by
  generalize next : ValueStyle.nextToken = style
  fun_induction ofTokens style tokens with
  | case1 => exact .nil
  | case2 name span rest items misplaced found ih =>
      rw [found] at ih
      exact List.isChain_cons.2 ⟨fun _ _ => trivial, ih⟩
  | case3 given span => exact List.isChain_singleton _
  | case4 given span token rest value taken items misplaced found ih =>
      rw [found] at ih
      refine List.isChain_cons.2 ⟨fun item _ => ?_, ih⟩
      cases item with
      | command name nameSpan => exact Option.some_ne_none value
      | option other => trivial
  | case5 given span token rest untaken items misplaced found ih =>
      rw [found] at ih
      refine List.isChain_cons.2 ⟨fun item first => ?_, ih⟩
      cases item with
      | option other => trivial
      | command name nameSpan =>
          have read : .command name nameSpan ∈ (ofTokens style (token :: rest)).1.head? := by
            rw [found]
            exact first
          obtain rfl := token_of_head?_ofTokens read
          intro bare
          simp [OptionUse.valueFrom?, ← next, bare, Token.asValue?] at untaken
  | case6 token rest => exact .nil

/-! ## The literal of a taken token -/

section Taken

variable {quote : Char} {offset : Nat} {kind : Token.Kind} {value : Value}
  (asValue : (kind.placed quote offset).asValue? = some value)
include asValue

theorem spelling_of_asValue? : value.literal.spelling quote = kind.spelling quote := by
  cases kind <;> cases asValue <;> rfl

theorem quoted_of_asValue? : value.literal.quoted = kind.endsQuoted := by
  cases kind <;> cases asValue <;> rfl

theorem readable_of_asValue? (readable : kind.Readable quote) : value.literal.Readable quote := by
  cases kind <;> cases asValue
  · exact readable.1
  · exact readable.1

end Taken

/-- In front of spaced pieces, others may stand behind a piece if their first gap is the same. -/
theorem Spaced.push {piece : Piece} {rest joined : List Piece} {tail : List Char}
    (blanks : ∀ char ∈ piece.gap, Text.isBlank char = true)
    (apart : ∀ next ∈ rest.head?, piece.kind.endsQuoted = false → next.gap ≠ [])
    (same : joined.head?.map Piece.gap = rest.head?.map Piece.gap) (further : Spaced joined tail) :
    Spaced (piece :: joined) tail := by
  refine ⟨List.forall_mem_cons.2 ⟨blanks, further.gaps⟩, further.tail,
    List.isChain_cons.2 ⟨fun next first bare => ?_, further.apart⟩⟩
  rw [Option.mem_def.1 first] at same
  obtain ⟨original, own, gap⟩ := Option.map_eq_some_iff.1 same.symm
  rw [← gap]
  exact apart original own bare

namespace Joins

variable {quote : Char} {start : Nat} {pieces joined : List Piece} {items : List Item}
  {gaps : List Span}

theorem kinds (joins : Joins quote start pieces items gaps joined) :
    joined.map (fun piece => piece.kind.unplaced) = items.map fun item => item.kind.unplaced := by
  induction joins with
  | nil => rfl
  | command gap name further ih => rw [List.map_cons, List.map_cons, ih]; rfl
  | @option start rest joined items gaps gap given further ih =>
      have same := given.unplaced_placed quote (start + bytes gap)
      rw [List.map_cons, List.map_cons, ih]
      exact congrArg (fun one => Token.Kind.option one :: _) same.symm
  | taken gap given value bare asValue further ih => rw [List.map_cons, List.map_cons, ih]; rfl

theorem readable (joins : Joins quote start pieces items gaps joined)
    (legible : ∀ piece ∈ pieces, piece.kind.Readable quote ∧ piece.kind.CanStart quote) :
    ∀ piece ∈ joined, piece.kind.Readable quote ∧ piece.kind.CanStart quote := by
  induction joins with
  | nil => exact legible
  | command gap name further ih =>
      rw [List.forall_mem_cons] at legible ⊢
      exact ⟨legible.1, ih legible.2⟩
  | option gap given further ih =>
      rw [List.forall_mem_cons] at legible ⊢
      exact ⟨legible.1, ih legible.2⟩
  | taken gap given value bare asValue further ih =>
      rw [List.forall_mem_cons, List.forall_mem_cons] at legible
      rw [List.forall_mem_cons]
      obtain ⟨⟨option, starts⟩, ⟨token, -⟩, others⟩ := legible
      refine ⟨⟨⟨option.named, ?_⟩, starts⟩, ih others⟩
      intro own same
      obtain rfl : value = own := Option.some.inj same
      exact readable_of_asValue? asValue token

theorem isProgram (joins : Joins quote start pieces items gaps joined) :
    ∀ piece ∈ joined, piece.kind.isProgram = false := by
  induction joins with
  | nil => simp
  | command gap name further ih => exact List.forall_mem_cons.2 ⟨rfl, ih⟩
  | option gap given further ih => exact List.forall_mem_cons.2 ⟨rfl, ih⟩
  | taken gap given value bare asValue further ih => exact List.forall_mem_cons.2 ⟨rfl, ih⟩

theorem head?_gap (joins : Joins quote start pieces items gaps joined) :
    joined.head?.map Piece.gap = pieces.head?.map Piece.gap := by
  cases joins <;> rfl

theorem spaced {tail : List Char} (joins : Joins quote start pieces items gaps joined)
    (spaced : Spaced pieces tail) : Spaced joined tail := by
  induction joins with
  | nil => exact spaced
  | command gap name further ih =>
      exact .push (spaced.gaps _ List.mem_cons_self) (List.isChain_cons.1 spaced.apart).1
        further.head?_gap (ih spaced.cons)
  | option gap given further ih =>
      exact .push (spaced.gaps _ List.mem_cons_self) (List.isChain_cons.1 spaced.apart).1
        further.head?_gap (ih spaced.cons)
  | taken gap given value bare asValue further ih =>
      -- behind the new option stands what stood behind its value
      have blanks := spaced.gaps ⟨gap, .option given⟩ List.mem_cons_self
      refine .push blanks (fun other first bareEnd => ?_)
        further.head?_gap (ih spaced.cons.cons)
      rw [Token.Kind.endsQuoted, Option.any_some, quoted_of_asValue? asValue] at bareEnd
      exact (List.isChain_cons.1 spaced.cons.apart).1 other first bareEnd

/-! ### The new line -/

theorem joinGaps_written {tail : List Char} (joins : Joins quote start pieces items gaps joined)
    (front : List Char) (offset : bytes front = start) :
    joinGaps gaps (front ++ written quote pieces tail) = front ++ written quote joined tail := by
  induction joins generalizing front with
  | nil => rfl
  | command gap name further ih =>
      rw [written_cons, written_cons, ← List.append_assoc, ← List.append_assoc]
      exact ih _ (by rw [Text.bytes_append, offset])
  | option gap given further ih =>
      rw [written_cons, written_cons, ← List.append_assoc, ← List.append_assoc]
      exact ih _ (by rw [Text.bytes_append, offset])
  | @taken start next rest joined items gaps gap given value bare asValue further ih =>
      let lead := front ++ Piece.text quote ⟨gap, .option given⟩
      have leadSize : bytes lead = start + bytes (Piece.text quote ⟨gap, .option given⟩) := by
        rw [Text.bytes_append, offset]
      have behind := ih (lead ++ next.text quote) (by rw [Text.bytes_append, leadSize])
      have split : front ++ written quote (⟨gap, .option given⟩ :: next :: rest) tail =
          lead ++ next.text quote ++ written quote rest tail := by
        simp [written_cons, lead]
      have cut := Span.replaced_append ⟨bytes lead, bytes next.gap⟩ ['=']
        (next.kind.spelling quote ++ written quote joined tail) rfl (Text.bytes_append ..)
      have new : Piece.text quote ⟨gap, .option { given with value? := some value }⟩ =
          Piece.text quote ⟨gap, .option given⟩ ++ '=' :: next.kind.spelling quote := by
        rw [← spelling_of_asValue? asValue]
        simp [Piece.text, Token.Kind.spelling, OptionUse.spelling, OptionUse.head, bare]
      rw [split, written_cons, new, ← leadSize, joinGaps, List.foldr_cons, ← joinGaps, behind]
      simpa [lead, Piece.text] using cut

/-- The gaps are blank. -/
theorem blank_gaps {source : String} {front tail : List Char}
    (joins : Joins quote start pieces items gaps joined) (spaced : Spaced pieces tail)
    (offset : bytes front = start)
    (whole : source.toList = front ++ written quote pieces tail) :
    ∀ gap ∈ gaps, ∃ text, text ≠ [] ∧ (∀ char ∈ text, Text.isBlank char = true) ∧
      gap.slice? source = some (String.ofList text) := by
  induction joins generalizing front with
  | nil => simp
  | command gap name further ih =>
      rw [written_cons, ← List.append_assoc] at whole
      exact ih spaced.cons (by rw [Text.bytes_append, offset]) whole
  | option gap given further ih =>
      rw [written_cons, ← List.append_assoc] at whole
      exact ih spaced.cons (by rw [Text.bytes_append, offset]) whole
  | @taken start next rest joined items gaps gap given value bare asValue further ih =>
      rw [written_cons, ← List.append_assoc, written_cons] at whole
      have leadSize : bytes (front ++ Piece.text quote ⟨gap, .option given⟩) =
          start + bytes (Piece.text quote ⟨gap, .option given⟩) := by
        rw [Text.bytes_append, offset]
      refine List.forall_mem_cons.2 ⟨⟨next.gap, ?_, spaced.gaps next (by simp), ?_⟩, ?_⟩
      · apply (List.isChain_cons.1 spaced.apart).1 next rfl
        simp [Token.Kind.endsQuoted, bare]
      · rw [← leadSize]
        apply Span.slice?_of_append (next.kind.spelling quote ++ written quote rest tail)
        simp [whole, Piece.text]
      · rw [← List.append_assoc] at whole
        exact ih spaced.cons.cons (by rw [Text.bytes_append, leadSize]) whole

/-! ### Gaps of items -/

theorem gap?_of_standsIn {source : String} {option : OptionUse} {span : Span}
    (stands : Token.StandsIn quote source ⟨.option option, span⟩) :
    Item.gap? source (.option option) = none := by
  rw [Item.gap?, OptionUse.gap?, Option.map_eq_none_iff, Option.filter_eq_none_iff]
  intro value given
  simp [isAttached_of_standsIn stands given]

/-- The gap in front of a taken value is that of the piece of its token. -/
theorem gap?_of_taken {source : String} {gap tail : List Char} {given : OptionUse} {next : Piece}
    {rest : List Piece} {value : Value} (bare : given.value? = none)
    (asValue : (next.kind.placed quote
      (start + bytes (Piece.text quote ⟨gap, .option given⟩) + bytes next.gap)).asValue? =
        some value)
    (laidOut : LaidOut quote source
      (placed quote start (⟨gap, .option given⟩ :: next :: rest)) tail) :
    Item.gap? source
        (.option { given.placed quote (start + bytes gap) with value? := some value }) =
      some ⟨start + bytes (Piece.text quote ⟨gap, .option given⟩), bytes next.gap⟩ := by
  have ends : ((Token.Kind.option given).placed quote (start + bytes gap)).kind.endsQuoted =
      false := by
    rw [Token.Kind.endsQuoted_placed, Token.Kind.endsQuoted, bare]
    rfl
  have loose := laidOut.taken_not_attached ends asValue
  have stop : (given.placed quote (start + bytes gap)).nameSpan.stop =
      start + bytes (Piece.text quote ⟨gap, .option given⟩) := by
    simp [Piece.text, Token.Kind.spelling, OptionUse.spelling, bare, OptionUse.placed, Span.stop,
      Nat.add_assoc]
  have position : value.span.position =
      start + bytes (Piece.text quote ⟨gap, .option given⟩) + bytes next.gap :=
    congrArg Span.position (Token.span_of_asValue? asValue)
  simp only [Item.gap?, OptionUse.gap?, Option.filter_some, loose, Bool.not_false, if_true,
    Option.map_some, Option.some.injEq, Span.ofRange]
  rw [stop, position, Nat.add_sub_cancel_left]

theorem gaps_eq {source : String} {tail : List Char}
    (joins : Joins quote start pieces items gaps joined)
    (laidOut : LaidOut quote source (placed quote start pieces) tail) :
    items.filterMap (Item.gap? source) = gaps := by
  induction joins with
  | nil => rfl
  | command gap name further ih => exact ih laidOut.head_and_tail.2
  | option gap given further ih =>
      obtain ⟨stands, rest⟩ := laidOut.head_and_tail
      rw [List.filterMap_cons_none (gap?_of_standsIn stands)]
      exact ih rest
  | @taken start next rest joined items gaps gap given value bare asValue further ih =>
      have here := gap?_of_taken bare asValue laidOut
      rw [List.filterMap_cons_some here, ih laidOut.head_and_tail.2.head_and_tail.2]

end Joins

/-! ## Joined sources -/

namespace Tree

variable {quote : Char} {maxDepth : Nat} {source : String} {tree : Tree} {first : Piece}
  {rest joined : List Piece} {tail : List Char}

structure JoinsTo (quote : Char) (tree : Tree) (first : Piece) (rest joined : List Piece)
    (tail : List Char) : Prop where
  program : first.kind = .program tree.program.literal
  whole : tree.source.toList = first.text quote ++ written quote rest tail
  joins : Joins quote (bytes (first.text quote)) rest
    (Item.ofParts tree.commands tree.options) tree.gaps joined
  spaced : Spaced (first :: rest) tail
  legible : Legible quote (first.kind :: rest.map Piece.kind)

theorem exists_joinsTo (parsed : parse ⟨quote, .nextToken, maxDepth⟩ source = .ok tree) :
    ∃ first rest joined tail, tree.JoinsTo quote first rest joined tail := by
  obtain ⟨rfl, tokens, items, lexed, read, -, assembled⟩ := (parse_eq_ok_iff ..).1 parsed
  obtain ⟨pieces, tail, kinds, whole, places, spaced, legible⟩ := exists_written_of_lex lexed
  have flat := Item.items_assemble items
  rw [assembled] at flat
  rcases pieces with - | ⟨first, rest⟩
  · cases kinds
  obtain ⟨sort, others⟩ := List.cons.inj kinds
  obtain ⟨-, rfl⟩ := List.cons.inj places
  obtain ⟨gaps, joined, joins⟩ := exists_joins rest _ read
  obtain ⟨laidOutTail, laidOut, -⟩ := lex_laidOut quote tree.source
  rw [lexed] at laidOut
  have same : tree.gaps = gaps := by
    rw [Tree.gaps, flat]
    exact joins.gaps_eq laidOut.head_and_tail.2
  rw [written_cons] at whole
  rw [Nat.zero_add] at joins
  rw [← kinds] at legible
  refine ⟨first, rest, joined, tail, sort, whole, ?_, spaced, legible⟩
  rw [flat, same]
  exact joins

namespace JoinsTo

theorem blank_gaps (pieces : tree.JoinsTo quote first rest joined tail) :
    ∀ gap ∈ tree.gaps, ∃ text, text ≠ [] ∧ (∀ char ∈ text, Text.isBlank char = true) ∧
      gap.slice? tree.source = some (String.ofList text) :=
  pieces.joins.blank_gaps pieces.spaced.cons rfl pieces.whole

theorem source_eq (pieces : tree.JoinsTo quote first rest joined tail) :
    tree.joined = String.ofList (written quote (first :: joined) tail) := by
  rw [Tree.joined, pieces.whole, written_cons, pieces.joins.joinGaps_written _ rfl]

theorem joined_spaced (pieces : tree.JoinsTo quote first rest joined tail) :
    Spaced (first :: joined) tail :=
  .push (pieces.spaced.gaps first List.mem_cons_self) (List.isChain_cons.1 pieces.spaced.apart).1
    pieces.joins.head?_gap (pieces.joins.spaced pieces.spaced.cons)

theorem joined_legible (pieces : tree.JoinsTo quote first rest joined tail) :
    Legible quote ((first :: joined).map Piece.kind) := by
  have old := pieces.legible
  have readable := List.forall_mem_cons.1 old.readable
  have canStart := List.forall_mem_cons.1 old.canStart
  have new := pieces.joins.readable fun piece member =>
    ⟨List.forall_mem_map.1 readable.2 piece member, List.forall_mem_map.1 canStart.2 piece member⟩
  refine ⟨old.programFirst, List.forall_mem_map.2 pieces.joins.isProgram, ?_, ?_⟩
  · exact List.forall_mem_cons.2 ⟨readable.1, List.forall_mem_map.2 fun piece member =>
      (new piece member).1⟩
  · exact List.forall_mem_cons.2 ⟨canStart.1, List.forall_mem_map.2 fun piece member =>
      (new piece member).2⟩

theorem joined_kinds (pieces : tree.JoinsTo quote first rest joined tail) :
    (first :: joined).map (fun piece => piece.kind.unplaced) =
      tree.kinds.map Token.Kind.unplaced := by
  rw [List.map_cons, pieces.joins.kinds, pieces.program, Tree.kinds, List.map_cons, List.map_map]
  rfl

end JoinsTo

theorem isChain_apart_of_parse (parsed : parse ⟨quote, .nextToken, maxDepth⟩ source = .ok tree) :
    (Item.ofParts tree.commands tree.options).IsChain Item.Apart := by
  obtain ⟨-, tokens, items, -, read, -, assembled⟩ := (parse_eq_ok_iff ..).1 parsed
  have apart := Item.isChain_apart_ofTokens tokens
  have flat := Item.items_assemble items
  rw [assembled] at flat
  rw [read] at apart
  rwa [flat]

/-- With an equals sign in the place of the blanks in front of each taken value, a source has
the same tree, wherever options find their values. -/
theorem parse_joined (parsed : parse ⟨quote, .nextToken, maxDepth⟩ source = .ok tree) :
    (∀ gap ∈ tree.gaps, ∃ text, text ≠ [] ∧ (∀ char ∈ text, Text.isBlank char = true) ∧
      gap.slice? source = some (String.ofList text)) ∧
    ∀ style, ∃ joined, parse ⟨quote, style, maxDepth⟩ tree.joined = .ok joined ∧
      joined.unplaced = tree.unplaced := by
  obtain ⟨same, tokens, items, -, -, shallow, assembled⟩ := (parse_eq_ok_iff ..).1 parsed
  obtain ⟨first, rest, joined, tail, pieces⟩ := exists_joinsTo parsed
  constructor
  · rw [← same]
    exact pieces.blank_gaps
  · intro style
    have cut := lex_written pieces.joined_legible pieces.joined_spaced
    rw [← pieces.source_eq] at cut
    refine exists_parse_of_kinds (fun _ => isChain_apart_of_parse parsed) cut ?_
      (formed_of_parse parsed).arranged ?_
    · rw [unplaced_placed]
      exact pieces.joined_kinds
    · rw [Item.tooDeep?_one_eq_none_iff, assembled] at shallow
      exact shallow

theorem parse_joined_of_equals_value :
    let source := "ö --n «a b«go -v \t=x -w"
    let tree : Tree := ⟨source, ⟨⟨"ö", false⟩, ⟨0, 2⟩⟩,
      [⟨"go", ⟨14, 2⟩, [], [⟨"v", ⟨17, 2⟩, .short, some ⟨⟨"=x", false⟩, ⟨21, 2⟩⟩⟩,
        ⟨"w", ⟨24, 2⟩, .short, none⟩]⟩],
      [⟨"n", ⟨3, 3⟩, .long, some ⟨⟨"a b", true⟩, ⟨7, 7⟩⟩⟩]⟩
    parse ⟨'«', .nextToken, 1⟩ source = .ok tree ∧
      tree.gaps = [⟨6, 1⟩, ⟨19, 2⟩] ∧ tree.joined = "ö --n=«a b«go -v==x -w" ∧
      (∀ gap ∈ tree.gaps, ∃ text, text ≠ [] ∧ (∀ char ∈ text, Text.isBlank char = true) ∧
        gap.slice? source = some (String.ofList text)) ∧
      ∀ style, ∃ joined, parse ⟨'«', style, 1⟩ tree.joined = .ok joined ∧
        joined.unplaced = tree.unplaced := by
  intro source tree
  have parsed : parse ⟨'«', .nextToken, 1⟩ source = .ok tree := by
    rw [parse_eq_ofLexed]
    decide +kernel
  exact ⟨parsed, by decide +kernel, by decide +kernel, parse_joined parsed⟩

end Tree

end CommandLine
