import CommandLine.Proofs.Token.Mapped

/-!
# Sources divided behind a token

A token ends where it does whatever stands behind it.  So the source up to the end of a
token is cut into the tokens up to this one (`Layout.exists_head`), and a scanner behind it
goes on as one that starts there (`Scanner.exists_run_behind`).  Behind another program name
the same tokens and the same error follow, with all spans moved as far as the text was:
`lex_resumed`.
-/

set_option autoImplicit false

namespace CommandLine

open Text (bytes AtBreak)

/-! ## Up to a token -/

namespace Layout

variable {quote : Char} {start : Nat} {text rest : List Char}

/-- Tokens are laid out in the text in front of the rest alone. -/
theorem exists_head {tokens : List Token} (layout : Layout quote start text tokens rest) :
    ∃ head, text = head ++ rest ∧ Layout quote start head tokens [] := by
  induction layout with
  | done start rest => exact ⟨[], rfl, .done start []⟩
  | @token start gap text after rest token tokens blanks visible read further ih =>
      obtain ⟨head, rfl, alone⟩ := ih
      have spelled := read.readable.spelling_ne_nil
      have opens : ∀ char ∈ (token.kind.spelling quote ++ head).head?,
          Text.isBlank char = false := by
        rw [List.head?_append_of_ne_nil _ spelled]
        rwa [read.spelled, List.head?_append_of_ne_nil _ spelled] at visible
      have readAlone : token.ReadOff quote (start + bytes gap)
          (token.kind.spelling quote ++ head) head :=
        ⟨rfl, read.span, read.parts, read.readable, fun bare => (read.delimited bare).left⟩
      exact ⟨gap ++ (token.kind.spelling quote ++ head), by simp [read.spelled],
        .token blanks opens readAlone alone⟩

/-- The rest starts where the last token stops. -/
theorem stop_eq {front : List Token} {last : Token}
    (layout : Layout quote start text (front ++ [last]) rest) :
    last.span.stop + bytes rest = start + bytes text := by
  induction front generalizing start text with
  | nil =>
      cases layout with
      | token blanks visible read further =>
      cases further
      rw [read.stop_eq, read.spelled, Text.bytes_append, Text.bytes_append]
      omega
  | cons token front ih =>
      cases layout with
      | token blanks visible read further =>
      rw [ih further, read.stop_eq, read.spelled, Text.bytes_append, Text.bytes_append]
      omega

end Layout

/-! ## Behind a token -/

namespace Scanner

variable {scanner : Scanner}

/-- A scanner that reads some tokens reads the first of them next. -/
theorem exists_next_of_run {token : Token} {tokens : List Token}
    (read : scanner.run.tokens = token :: tokens) :
    ∃ after, scanner.next = (some (.ok token), after) ∧
      after.run = ⟨tokens, scanner.run.error?⟩ := by
  rcases step : scanner.next with ⟨_ | error | found, after⟩
  · rw [run_of_next_eq_none step] at read
    cases read
  · rw [run_of_next_eq_error step] at read
    cases read
  · rw [run_of_next_eq_ok step] at read ⊢
    obtain ⟨rfl, rfl⟩ := List.cons.inj read
    exact ⟨after, rfl, rfl⟩

/-- Behind some tokens, a scanner goes on as one that starts at the end of the last. -/
theorem exists_run_behind {front back : List Token} {last : Token}
    (read : scanner.run.tokens = front ++ last :: back)
    (unfinished : scanner.finished = false) :
    ∃ rest, Layout scanner.quote scanner.position scanner.rest (front ++ [last]) rest ∧
      (⟨scanner.source, scanner.quote, rest, last.span.stop, true, false⟩ : Scanner).run =
        ⟨back, scanner.run.error?⟩ := by
  induction front generalizing scanner with
  | nil =>
      obtain ⟨after, step, remaining⟩ := exists_next_of_run read
      have layout := layout_of_next_eq_ok step (.done after.position after.rest)
      obtain ⟨-, char, text, rest, -, -, rfl⟩ := next_eq_ok step
      rw [unfinished] at remaining
      exact ⟨rest, layout, remaining⟩
  | cons token front ih =>
      obtain ⟨after, step, remaining⟩ := exists_next_of_run read
      obtain ⟨-, char, text, behind, -, -, rfl⟩ := next_eq_ok step
      have continued := congrArg Lexed.tokens remaining
      obtain ⟨rest, further, goesOn⟩ := ih continued unfinished
      rw [remaining] at goesOn
      exact ⟨rest, layout_of_next_eq_ok step further, goesOn⟩

theorem run_congr {other : Scanner} (same : scanner.next = other.next) :
    scanner.run = other.run := by
  rcases step : scanner.next with ⟨_ | error | token, after⟩
  · rw [run_of_next_eq_none step, run_of_next_eq_none (same.symm.trans step)]
  · rw [run_of_next_eq_error step, run_of_next_eq_error (same.symm.trans step)]
  · rw [run_of_next_eq_ok step, run_of_next_eq_ok (same.symm.trans step)]

/-- A blank in front of what is left is skipped, and nothing else. -/
theorem run_blank_cons {blank : Char} (isBlank : Text.isBlank blank = true) (source : String)
    (quote : Char) (rest : List Char) (position : Nat) (started : Bool) :
    (⟨source, quote, blank :: rest, position, started, false⟩ : Scanner).run =
      (⟨source, quote, rest, position + blank.utf8Size, started, false⟩ : Scanner).run := by
  apply run_congr
  have leading : Text.leadingBlanks (blank :: rest) = blank :: Text.leadingBlanks rest :=
    List.takeWhile_cons_of_pos isBlank
  have skipped : Text.skipBlanks (blank :: rest) = Text.skipBlanks rest :=
    List.dropWhile_cons_of_pos isBlank
  simp only [next, leading, skipped, Text.bytes_cons, Nat.add_assoc, Bool.false_eq_true, if_false]

/-- A bare word at the start of a source is the name of its program. -/
theorem run_bare_program {quote : Char} {word : String} (bare : Bare quote word)
    {rest : List Char} (ended : AtBreak rest) (source : String) :
    (⟨source, quote, word.toList ++ rest, 0, false, false⟩ : Scanner).run =
      let behind := (⟨source, quote, rest, bytes word.toList, true, false⟩ : Scanner).run
      ⟨⟨.program ⟨word, false⟩, ⟨0, bytes word.toList⟩⟩ :: behind.tokens, behind.error?⟩ := by
  let program : Token := ⟨.program ⟨word, false⟩, ⟨0, bytes word.toList⟩⟩
  have off : program.ReadOff quote (0 + bytes []) (word.toList ++ rest) rest :=
    ⟨rfl, rfl, nofun, bare, fun _ => ended⟩
  have visible : ∀ char ∈ (word.toList ++ rest).head?, Text.isBlank char = false := by
    intro char first
    rw [List.head?_append_of_ne_nil _ bare.nonempty] at first
    exact bare.unblank char (List.mem_of_head? first)
  have first : program.kind.isProgram = !false := rfl
  have step := next_of_readOff (by simp) visible off nofun source first
  rw [List.nil_append] at step
  rw [run_of_next_eq_ok step]
  simp [program, Span.stop]

end Scanner

/-- What is laid out up to some token of a source is cut into the tokens up to it. -/
theorem lex_of_layout_alone {quote : Char} {source : String} {tokens back : List Token}
    {head : List Char} (read : (lex quote source).tokens = tokens ++ back)
    (alone : Layout quote 0 head tokens []) :
    lex quote (String.ofList head) = ⟨tokens, none⟩ := by
  obtain ⟨starts, first, later⟩ := Scanner.run_kinds (Scanner.ofSource quote source)
  rw [lex] at read
  rw [read] at starts first later
  rw [lex, Scanner.ofSource, String.toList_ofList]
  refine Scanner.run_of_layout alone (by simp) ?_ _ false ?_ ?_
  · intro token member
    exact starts token (List.mem_append_left back member)
  · intro token front
    refine first token ?_
    rw [List.head?_append, Option.mem_def.1 front]
    rfl
  · intro token member
    have nonempty : tokens ≠ [] := by
      rintro rfl
      cases member
    rw [List.tail_append_of_ne_nil nonempty] at later
    exact later token (List.mem_append_left back member)

/-- Behind a token, a source can be divided.  The text up to there is cut into the tokens up to
there.  Behind another program name, the text from there on is cut into the tokens from there
on, and ends as it did, with all spans moved as far as the text was. -/
theorem lex_resumed {quote : Char} {source : String} {front back : List Token} {last : Token}
    (read : (lex quote source).tokens = front ++ last :: back) :
    ∃ head tail, Text.splitAt? source.toList last.span.stop = some (head, tail) ∧
      tokenize quote (String.ofList head) = .ok (front ++ [last]) ∧
      ∀ word, Bare quote word → ∃ behind : Lexed,
        lex quote (word ++ " " ++ String.ofList tail) =
          ⟨⟨.program ⟨word, false⟩, ⟨0, bytes word.toList⟩⟩ :: behind.tokens, behind.error?⟩ ∧
        behind.mapSpans (Span.shifted last.span.stop) =
          (⟨back, (lex quote source).error?⟩ : Lexed).mapSpans
            (Span.shifted (bytes word.toList + 1)) := by
  obtain ⟨tail, layout, goesOn⟩ := Scanner.exists_run_behind read rfl
  obtain ⟨head, whole, alone⟩ := layout.exists_head
  refine ⟨head, tail, ?_, ?_, ?_⟩
  · have stop : last.span.stop = bytes head := by
      simpa [Scanner.ofSource] using alone.stop_eq
    rw [stop, show source.toList = head ++ tail from whole, Text.splitAt?_bytes_append]
  · have parted : (lex quote source).tokens = front ++ [last] ++ back := by simpa using read
    exact (Lexed.complete_eq_ok_iff ..).2 (lex_of_layout_alone parted alone)
  · intro word bare
    let line := word ++ " " ++ String.ofList tail
    let resumed : Scanner := ⟨line, quote, tail, bytes word.toList + 1, true, false⟩
    have characters : line.toList = word.toList ++ ' ' :: tail := by simp [line]
    have ended : AtBreak (' ' :: tail) := (Text.atBreak_cons_iff ..).2 rfl
    refine ⟨resumed.run, ?_, ?_⟩
    · rw [lex, Scanner.ofSource, characters, Scanner.run_bare_program bare ended,
        Scanner.run_blank_cons (by rfl)]
      rfl
    · -- both ways lead to a scanner of the tail at the sum of the two offsets
      rw [lex, ← goesOn, ← Scanner.run_shifted line, ← Scanner.run_shifted line]
      simp only [resumed, Scanner.shifted, Scanner.ofSource, Nat.add_comm last.span.stop]

theorem lex_resumed_with_equals_as_quote :
    let source := "ö --n==ä b==x y=go\t-="
    let head := "ö --n==ä b="
    let tail := "=x y=go\t-="
    let program : Token := ⟨.program ⟨"ö", false⟩, ⟨0, 2⟩⟩
    let last : Token := ⟨.option ⟨"n", ⟨3, 3⟩, .long, some ⟨⟨"ä b", true⟩, ⟨7, 6⟩⟩⟩, ⟨3, 10⟩⟩
    let back : List Token := [⟨.value ⟨"x y", true⟩, ⟨13, 5⟩⟩, ⟨.command "go", ⟨18, 2⟩⟩]
    let error : LexError := .malformedOption "-=" LexError.missingName ⟨21, 2⟩
    lex '=' source = ⟨[program] ++ last :: back, some error⟩ ∧
      Text.splitAt? source.toList 13 = some (head.toList, tail.toList) ∧
      tokenize '=' head = .ok [program, last] ∧ Bare '=' "-é" ∧
      ∃ behind : Lexed, lex '=' ("-é" ++ " " ++ tail) =
          ⟨⟨.program ⟨"-é", false⟩, ⟨0, 3⟩⟩ :: behind.tokens, behind.error?⟩ ∧
        behind.mapSpans (Span.shifted 13) =
          (⟨back, some error⟩ : Lexed).mapSpans (Span.shifted 4) := by
  intro source head tail program last back error
  have cut : lex '=' source = ⟨[program] ++ last :: back, some error⟩ := by decide +kernel
  have read : (lex '=' source).tokens = [program] ++ last :: back := by rw [cut]
  have divided : Text.splitAt? source.toList 13 = some (head.toList, tail.toList) := by decide
  have bare : Bare '=' "-é" := by decide
  obtain ⟨front, behind, split, upTo, after⟩ := lex_resumed read
  obtain ⟨rfl, rfl⟩ : head.toList = front ∧ tail.toList = behind := by
    simpa using divided.symm.trans split
  have resumed := after "-é" bare
  rw [cut, String.ofList_toList] at resumed
  rw [String.ofList_toList] at upTo
  exact ⟨cut, divided, upTo, bare, resumed⟩

end CommandLine
