import CommandLine.Proofs.Token.Written

/-!
# Tokens and the lines they are written on

Cutting a source into tokens and writing tokens as a line undo each other.  A source
that is cut was written from the kinds of its tokens (`exists_written_of_tokenize`),
and a line of legible kinds is cut into these again (`tokenize_written`).
-/

set_option autoImplicit false

namespace CommandLine

open Text (bytes AtBreak)

/-- Kinds that can be read back from a line: the first is the name of the program, and
no other is. -/
structure Legible (quote : Char) (kinds : List Token.Kind) : Prop where
  programFirst : ∀ kind ∈ kinds.head?, kind.isProgram = true
  programOnce : ∀ kind ∈ kinds.tail, kind.isProgram = false
  readable : ∀ kind ∈ kinds, kind.Readable quote
  canStart : ∀ kind ∈ kinds, kind.CanStart quote

instance (quote : Char) (kinds : List Token.Kind) : Decidable (Legible quote kinds) :=
  decidable_of_iff
    ((∀ kind ∈ kinds.head?, kind.isProgram = true) ∧
      (∀ kind ∈ kinds.tail, kind.isProgram = false) ∧
      (∀ kind ∈ kinds, kind.Readable quote) ∧ ∀ kind ∈ kinds, kind.CanStart quote)
    ⟨fun ⟨first, once, readable, canStart⟩ => ⟨first, once, readable, canStart⟩,
      fun legible =>
        ⟨legible.programFirst, legible.programOnce, legible.readable, legible.canStart⟩⟩

/-! ## Runs of a scanner -/

namespace Scanner

theorem split_blanks (gap text : List Char) (blanks : ∀ char ∈ gap, Text.isBlank char = true)
    (visible : ∀ char ∈ text.head?, Text.isBlank char = false) :
    Text.leadingBlanks (gap ++ text) = gap ∧ Text.skipBlanks (gap ++ text) = text := by
  have none : Text.leadingBlanks text = [] := by
    cases text with
    | nil => rfl
    | cons char rest => simp [Text.leadingBlanks, visible char rfl]
  have all : Text.skipBlanks text = text := by
    have whole := Text.leadingBlanks_append_skipBlanks text
    rwa [none, List.nil_append] at whole
  constructor
  · rw [Text.leadingBlanks, List.takeWhile_append_of_pos blanks, ← Text.leadingBlanks, none,
      List.append_nil]
  · rw [Text.skipBlanks, List.dropWhile_append_of_pos blanks, ← Text.skipBlanks, all]

theorem run_of_blank {scanner : Scanner} (blank : ∀ char ∈ scanner.rest, Text.isBlank char = true) :
    scanner.run = ⟨[], none⟩ := by
  have skipped := (split_blanks _ [] blank (by simp)).2
  rw [List.append_nil] at skipped
  have ended : ∃ after, scanner.next = (none, after) := by
    cases done : scanner.finished with
    | true => exact ⟨scanner, next_of_finished done⟩
    | false => exact ⟨_, by simp only [next, done, skipped]; rfl⟩
  obtain ⟨after, read⟩ := ended
  exact run_of_next_eq_none read

/-- A scanner reads the token that stands behind the blanks before it. -/
theorem next_of_readOff {quote : Char} {start : Nat} {gap text after : List Char} {token : Token}
    (blanks : ∀ char ∈ gap, Text.isBlank char = true)
    (visible : ∀ char ∈ text.head?, Text.isBlank char = false)
    (off : token.ReadOff quote (start + bytes gap) text after)
    (starts : token.kind.CanStart quote) (source : String) {started : Bool}
    (order : token.kind.isProgram = !started) :
    (⟨source, quote, gap ++ text, start, started, false⟩ : Scanner).next =
      (some (.ok token), ⟨source, quote, after, token.span.stop, true, false⟩) := by
  obtain ⟨char, more, rfl⟩ : ∃ char more, text = char :: more := by
    apply List.exists_cons_of_ne_nil
    rw [off.spelled]
    simp [off.readable.spelling_ne_nil]
  obtain ⟨leading, skipped⟩ := split_blanks _ _ blanks visible
  have told := readToken_eq_ok off starts
  rw [order] at told
  simp only [next, leading, skipped, told]
  rfl

/-- A scanner that stands before a layout reads its tokens. -/
theorem run_of_layout {quote : Char} {start : Nat} {text rest : List Char} {tokens : List Token}
    (layout : Layout quote start text tokens rest) (blank : ∀ char ∈ rest, Text.isBlank char = true)
    (starts : ∀ token ∈ tokens, token.kind.CanStart quote) (source : String) (started : Bool)
    (order : ∀ token ∈ tokens.head?, token.kind.isProgram = !started)
    (later : ∀ token ∈ tokens.tail, token.kind.isProgram = false) :
    (⟨source, quote, text, start, started, false⟩ : Scanner).run = ⟨tokens, none⟩ := by
  induction layout generalizing started with
  | done start rest => exact run_of_blank blank
  | @token start gap text after rest token tokens blanks visible read further ih =>
      have others := ih blank (fun other member => starts other (by simp [member])) true
        (fun other first => later other (List.mem_of_head? first))
        (fun other member => later other (List.mem_of_mem_tail member))
      have step := next_of_readOff blanks visible read (starts token (by simp)) source
        (order token rfl)
      rw [run_of_next_eq_ok step, others]

theorem run_kinds (scanner : Scanner) :
    (∀ token ∈ scanner.run.tokens, token.kind.CanStart scanner.quote) ∧
      (∀ token ∈ scanner.run.tokens.head?, token.kind.isProgram = !scanner.started) ∧
      ∀ token ∈ scanner.run.tokens.tail, token.kind.isProgram = false := by
  fun_induction Scanner.run scanner with
  | case1 scanner after read => simp
  | case2 scanner error after read => simp
  | case3 scanner token after read remaining ih =>
      obtain ⟨-, char, text, behind, skipped, readNext, rfl⟩ := next_eq_ok read
      obtain ⟨-, sort, starts⟩ :=
        (readToken_eq_ok_iff (isBlank_eq_false_of_skipBlanks skipped)).1 readNext
      obtain ⟨startsToo, second, later⟩ := ih
      refine ⟨List.forall_mem_cons.2 ⟨starts, startsToo⟩, ?_, ?_⟩
      · intro other first
        obtain rfl : token = other := by simpa using first
        exact sort
      · intro other member
        change other ∈ remaining.tokens at member
        obtain ⟨next, rest, same⟩ := List.exists_cons_of_ne_nil (List.ne_nil_of_mem member)
        rw [same] at second later member
        rcases List.mem_cons.1 member with rfl | further
        · exact second other rfl
        · exact later other further

end Scanner

/-! ## Whole lines -/

theorem Lexed.complete_eq_ok_iff (lexed : Lexed) (tokens : List Token) :
    lexed.complete = .ok tokens ↔ lexed = ⟨tokens, none⟩ := by
  rcases lexed with ⟨found, error?⟩
  cases error? <;> simp [complete]

theorem Lexed.complete_eq_error_iff (lexed : Lexed) (error : LexError) :
    lexed.complete = .error error ↔ lexed.error? = some error := by
  rcases lexed with ⟨found, error?⟩
  cases error? <;> simp [complete]

theorem exists_piece_of_mem_placed {quote : Char} {start : Nat} {pieces : List Piece}
    {token : Token} (member : token ∈ placed quote start pieces) :
    ∃ piece ∈ pieces, ∃ offset, token = piece.kind.placed quote offset := by
  induction pieces generalizing start with
  | nil => cases member
  | cons piece rest ih =>
      rcases List.mem_cons.1 member with rfl | later
      · exact ⟨piece, by simp, _, rfl⟩
      · obtain ⟨other, own, offset, same⟩ := ih later
        exact ⟨other, by simp [own], offset, same⟩

theorem unplaced_placed (quote : Char) (start : Nat) (pieces : List Piece) :
    (placed quote start pieces).map (fun token => token.kind.unplaced) =
      pieces.map fun piece => piece.kind.unplaced := by
  induction pieces generalizing start with
  | nil => rfl
  | cons piece rest ih => simp [placed, ih]

theorem lex_written {quote : Char} {pieces : List Piece} {tail : List Char}
    (legible : Legible quote (pieces.map Piece.kind)) (spaced : Spaced pieces tail) :
    lex quote (String.ofList (written quote pieces tail)) = ⟨placed quote 0 pieces, none⟩ := by
  have readable := List.forall_mem_map.1 legible.readable
  have canStart := List.forall_mem_map.1 legible.canStart
  have layout := layout_written spaced (fun piece member =>
    ⟨readable piece member, canStart piece member⟩) 0
  rw [lex, Scanner.ofSource, String.toList_ofList]
  apply Scanner.run_of_layout layout spaced.tail
  · intro token member
    obtain ⟨piece, own, offset, rfl⟩ := exists_piece_of_mem_placed member
    exact (Token.Kind.canStart_placed ..).2 (canStart piece own)
  · intro token first
    cases pieces with
    | nil => cases first
    | cons piece rest =>
        obtain rfl : _ = token := Option.some.inj first
        simpa using legible.programFirst piece.kind rfl
  · intro token member
    cases pieces with
    | nil => cases member
    | cons piece rest =>
        obtain ⟨other, own, offset, rfl⟩ := exists_piece_of_mem_placed member
        simpa using legible.programOnce other.kind (List.mem_map_of_mem own)

theorem exists_written_of_lex {quote : Char} {source : String} {tokens : List Token}
    (cut : lex quote source = ⟨tokens, none⟩) :
    ∃ pieces tail, pieces.map Piece.kind = tokens.map Token.kind ∧
      source.toList = written quote pieces tail ∧ tokens = placed quote 0 pieces ∧
      Spaced pieces tail ∧ Legible quote (tokens.map Token.kind) := by
  have scanned : (Scanner.ofSource quote source).run = ⟨tokens, none⟩ := cut
  obtain ⟨tail, layout, blank⟩ := Scanner.run_layout (Scanner.ofSource quote source) rfl
  obtain ⟨starts, first, later⟩ := Scanner.run_kinds (Scanner.ofSource quote source)
  rw [scanned] at layout blank starts first later
  obtain ⟨pieces, kinds, whole, places, each, apart⟩ := layout.exists_written
  have gaps (piece : Piece) (member : piece ∈ pieces) := (each piece member).1
  have readable : ∀ kind ∈ pieces.map Piece.kind, kind.Readable quote :=
    List.forall_mem_map.2 fun piece member => (each piece member).2.1
  rw [kinds] at readable
  refine ⟨pieces, tail, kinds, whole, places, ⟨gaps, blank rfl, apart⟩,
    ⟨?_, ?_, readable, List.forall_mem_map.2 starts⟩⟩
  · intro kind head
    rw [List.head?_map] at head
    obtain ⟨token, front, rfl⟩ := Option.map_eq_some_iff.1 head
    exact first token front
  · rw [← List.map_tail]
    exact List.forall_mem_map.2 later

/-- A source that is cut into tokens consists of their spellings and of blanks, and every
span cuts out what it is the span of. -/
theorem exists_written_of_tokenize {quote : Char} {source : String} {tokens : List Token}
    (cut : tokenize quote source = .ok tokens) :
    (∃ pieces tail, pieces.map Piece.kind = tokens.map Token.kind ∧
      source.toList = written quote pieces tail ∧ tokens = placed quote 0 pieces ∧
      Spaced pieces tail) ∧
    Legible quote (tokens.map Token.kind) ∧ ∀ token ∈ tokens, token.Sliced quote source := by
  have whole := (Lexed.complete_eq_ok_iff ..).1 cut
  obtain ⟨pieces, tail, kinds, same, places, spaced, legible⟩ := exists_written_of_lex whole
  refine ⟨⟨pieces, tail, kinds, same, places, spaced⟩, legible, ?_⟩
  intro token member
  exact (Token.standsIn_of_lex (by rwa [whole])).sliced

theorem exists_written_of_doubled_equals :
    let source := " app --n==a b==x y= go"
    let tokens : List Token := [⟨.program ⟨"app", false⟩, ⟨1, 3⟩⟩,
      ⟨.option ⟨"n", ⟨5, 3⟩, .long, some ⟨⟨"a b", true⟩, ⟨9, 5⟩⟩⟩, ⟨5, 9⟩⟩,
      ⟨.value ⟨"x y", true⟩, ⟨14, 5⟩⟩, ⟨.command "go", ⟨20, 2⟩⟩]
    tokenize '=' source = .ok tokens ∧
      (∃ pieces tail, pieces.map Piece.kind = tokens.map Token.kind ∧
        source.toList = written '=' pieces tail ∧ tokens = placed '=' 0 pieces ∧
        Spaced pieces tail) ∧
      Legible '=' (tokens.map Token.kind) ∧ ∀ token ∈ tokens, token.Sliced '=' source := by
  intro source tokens
  let pieces : List Piece := [⟨[' '], .program ⟨"app", false⟩⟩,
    ⟨[' '], .option ⟨"n", ⟨5, 3⟩, .long, some ⟨⟨"a b", true⟩, ⟨9, 5⟩⟩⟩⟩,
    ⟨[], .value ⟨"x y", true⟩⟩, ⟨[' '], .command "go"⟩]
  have legible : Legible '=' (pieces.map Piece.kind) := by decide
  have spaced : Spaced pieces [] := by decide
  have same : String.ofList (written '=' pieces []) = source := by decide
  have cut : tokenize '=' source = .ok tokens := by
    rw [← same]
    exact (Lexed.complete_eq_ok_iff ..).2 (lex_written legible spaced)
  exact ⟨cut, exists_written_of_tokenize cut⟩

/-- A line that is written from legible kinds is cut into these again, where they are
written. -/
theorem tokenize_written {quote : Char} {pieces : List Piece} {tail : List Char}
    (legible : Legible quote (pieces.map Piece.kind)) (spaced : Spaced pieces tail) :
    tokenize quote (String.ofList (written quote pieces tail)) = .ok (placed quote 0 pieces) ∧
      (placed quote 0 pieces).map (fun token => token.kind.unplaced) =
        pieces.map fun piece => piece.kind.unplaced :=
  ⟨(Lexed.complete_eq_ok_iff ..).2 (lex_written legible spaced), unplaced_placed quote 0 pieces⟩

theorem tokenize_written_with_blank_quote :
    let value : Value := ⟨⟨"a", true⟩, ⟨0, 0⟩⟩
    let pieces : List Piece := [⟨[], .program ⟨"-app", false⟩⟩,
      ⟨['\t'], .option ⟨"n", ⟨0, 0⟩, .long, some value⟩⟩, ⟨[], .command "b"⟩]
    Legible ' ' (pieces.map Piece.kind) ∧ Spaced pieces [] ∧
      tokenize ' ' (String.ofList (written ' ' pieces [])) = .ok (placed ' ' 0 pieces) ∧
      (placed ' ' 0 pieces).map (fun token => token.kind.unplaced) =
        pieces.map fun piece => piece.kind.unplaced := by
  intro value pieces
  have legible : Legible ' ' (pieces.map Piece.kind) := by decide
  have spaced : Spaced pieces [] := by decide
  exact ⟨legible, spaced, tokenize_written legible spaced⟩

end CommandLine
