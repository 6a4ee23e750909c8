import CommandLine.Proofs.Token.Failure
import CommandLine.Token.Scanner

/-!
# Layout of a source

All that a step of a scanner can do is listed in `Scanner.Step`.  A scanner lays its
source out as blanks and tokens in turn, each token read off what is left:
`run_layout`.  `LaidOut` forgets the offset at which some tokens of a
source start.  Such tokens come in order, each stands in the source where its
spans say, and a blank comes before each one that follows an unquoted end.
-/

set_option autoImplicit false

namespace CommandLine

open Text (bytes)

/-- From an offset on, a text holds some tokens behind blanks, and then a rest. -/
inductive Layout (quote : Char) : Nat → List Char → List Token → List Char → Prop
  | done (start : Nat) (rest : List Char) : Layout quote start rest [] rest
  | token {start : Nat} {gap text after rest : List Char} {token : Token} {tokens : List Token}
      (blanks : ∀ char ∈ gap, Text.isBlank char = true)
      (visible : ∀ char ∈ text.head?, Text.isBlank char = false)
      (read : token.ReadOff quote (start + bytes gap) text after)
      (further : Layout quote token.span.stop after tokens rest) :
      Layout quote start (gap ++ text) (token :: tokens) rest

def Token.StandsIn (quote : Char) (source : String) (token : Token) : Prop :=
  ∃ front text after, source.toList = front ++ text ∧
    token.ReadOff quote (bytes front) text after

/-- The spans of a token and of its parts cut their spellings out of a source. -/
structure Token.Sliced (quote : Char) (source : String) (token : Token) : Prop where
  whole : token.span.slice? source = some (String.ofList (token.kind.spelling quote))
  head : ∀ given, token.kind = .option given →
    given.nameSpan.slice? source = some (String.ofList given.head)
  value : ∀ given, token.kind = .option given → ∀ value ∈ given.value?,
    value.span.slice? source = some (String.ofList (value.literal.spelling quote))

theorem Token.StandsIn.sliced {quote : Char} {source : String} {token : Token}
    (stands : token.StandsIn quote source) : token.Sliced quote source := by
  obtain ⟨front, text, after, whole, off⟩ := stands
  have spelled : source.toList = front ++ token.kind.spelling quote ++ after := by
    rw [whole, off.spelled, List.append_assoc]
  constructor
  · rw [off.span]
    exact Span.slice?_of_append after spelled
  · intro given same
    have placed := off.parts given same
    have head : ∃ tail, given.spelling quote = given.head ++ tail := by
      unfold OptionUse.spelling
      split
      · exact ⟨[], by simp⟩
      · exact ⟨_, rfl⟩
    obtain ⟨tail, written⟩ := head
    rw [placed.name]
    apply Span.slice?_of_append (tail ++ after)
    rw [spelled, same, Token.Kind.spelling, written]
    simp
  · intro given same value inside
    have placed := off.parts given same
    have span : value.span =
        ⟨bytes (front ++ given.head ++ ['=']), bytes (value.literal.spelling quote)⟩ := by
      rw [placed.value value inside, placed.name]
      simp [Span.stop, Char.utf8Size, Nat.add_assoc]
    rw [span]
    apply Span.slice?_of_append after
    rw [spelled, same]
    simp [Token.Kind.spelling, OptionUse.spelling, Option.mem_def.1 inside]

/-! ## Scanners -/

namespace Scanner

theorem isBlank_eq_false_of_skipBlanks {text rest : List Char} {char : Char}
    (skipped : Text.skipBlanks text = char :: rest) : Text.isBlank char = false := by
  have stopped := List.head?_dropWhile_not Text.isBlank text
  rw [Text.skipBlanks] at skipped
  rw [skipped] at stopped
  simpa using stopped

variable {scanner after : Scanner} {item : Option (Except LexError Token)}

def behindBlanks (scanner : Scanner) : Nat :=
  scanner.position + bytes (Text.leadingBlanks scanner.rest)

/-- All that a step of a scanner can do, with what it answers and the scanner after it. -/
inductive Step (scanner : Scanner) : Option (Except LexError Token) → Scanner → Prop
  | done (finished : scanner.finished = true) : Step scanner none scanner
  | ended (unfinished : scanner.finished = false)
      (blank : Text.skipBlanks scanner.rest = []) :
      Step scanner none
        { scanner with rest := [], position := scanner.behindBlanks, finished := true }
  | token {char : Char} {rest behind : List Char} {token : Token}
      (unfinished : scanner.finished = false)
      (skipped : Text.skipBlanks scanner.rest = char :: rest)
      (read : readToken scanner.quote (!scanner.started) scanner.behindBlanks char rest =
        .ok (token, behind)) :
      Step scanner (some (.ok token))
        { scanner with rest := behind, position := token.span.stop, started := true }
  | failed {char : Char} {rest : List Char} {error : LexError}
      (unfinished : scanner.finished = false)
      (skipped : Text.skipBlanks scanner.rest = char :: rest)
      (read : readToken scanner.quote (!scanner.started) scanner.behindBlanks char rest =
        .error error) :
      Step scanner (some (.error error))
        { scanner with
          rest := char :: rest, position := scanner.behindBlanks, started := true,
          finished := true }

theorem step_next (scanner : Scanner) : scanner.Step scanner.next.1 scanner.next.2 := by
  unfold next
  split
  · rename_i finished
    exact .done finished
  · rename_i unfinished
    rw [Bool.not_eq_true] at unfinished
    dsimp only
    split
    · rename_i blank
      exact .ended unfinished blank
    · rename_i skipped
      split
      · rename_i read
        exact .token unfinished skipped read
      · rename_i read
        exact .failed unfinished skipped read

theorem step_of_next (read : scanner.next = (item, after)) : scanner.Step item after := by
  have step := scanner.step_next
  rw [read] at step
  exact step

theorem next_eq_ok {token : Token} (read : scanner.next = (some (.ok token), after)) :
    scanner.finished = false ∧ ∃ char text rest, Text.skipBlanks scanner.rest = char :: text ∧
      readToken scanner.quote (!scanner.started)
        (scanner.position + bytes (Text.leadingBlanks scanner.rest)) char text =
          .ok (token, rest) ∧
      after = { scanner with rest, position := token.span.stop, started := true } := by
  cases step_of_next read with
  | token unfinished skipped readNext =>
      exact ⟨unfinished, _, _, _, skipped, readNext, rfl⟩

theorem next_eq_error {error : LexError} (read : scanner.next = (some (.error error), after)) :
    ∃ char text, Text.skipBlanks scanner.rest = char :: text ∧
      readToken scanner.quote (!scanner.started)
        (scanner.position + bytes (Text.leadingBlanks scanner.rest)) char text =
          .error error := by
  cases step_of_next read with
  | failed unfinished skipped readNext => exact ⟨_, _, skipped, readNext⟩

theorem skipBlanks_eq_nil_of_next_eq_none (unfinished : scanner.finished = false)
    (read : scanner.next = (none, after)) : Text.skipBlanks scanner.rest = [] := by
  cases step_of_next read with
  | done finished =>
      rw [unfinished] at finished
      cases finished
  | ended unfinished blank => exact blank

/-- What is laid out behind a token is laid out behind the text in front of the token. -/
theorem layout_of_next_eq_ok {token : Token} {tokens : List Token} {rest : List Char}
    (read : scanner.next = (some (.ok token), after))
    (further : Layout scanner.quote after.position after.rest tokens rest) :
    Layout scanner.quote scanner.position scanner.rest (token :: tokens) rest := by
  obtain ⟨-, char, text, behind, skipped, readNext, rfl⟩ := next_eq_ok read
  have unblank := isBlank_eq_false_of_skipBlanks skipped
  rw [← Text.leadingBlanks_append_skipBlanks scanner.rest, skipped]
  refine .token ?_ ?_ (readToken_readOff unblank readNext).1 further
  · exact List.all_eq_true.1 List.all_takeWhile
  · intro first same
    cases same
    exact unblank

theorem run_layout (scanner : Scanner) (unfinished : scanner.finished = false) :
    ∃ rest, Layout scanner.quote scanner.position scanner.rest scanner.run.tokens rest ∧
      (scanner.run.error? = none → ∀ char ∈ rest, Text.isBlank char = true) := by
  fun_induction Scanner.run scanner with
  | case1 scanner after read =>
      refine ⟨scanner.rest, .done .., fun _ => ?_⟩
      have whole := Text.leadingBlanks_append_skipBlanks scanner.rest
      rw [skipBlanks_eq_nil_of_next_eq_none unfinished read, List.append_nil] at whole
      rw [← whole]
      exact List.all_eq_true.1 List.all_takeWhile
  | case2 scanner error after read =>
      refine ⟨scanner.rest, .done .., fun complete => ?_⟩
      cases complete
  | case3 scanner token after read remaining ih =>
      obtain ⟨-, char, text, behind, -, -, rfl⟩ := next_eq_ok read
      obtain ⟨rest, further, blank⟩ := ih unfinished
      exact ⟨rest, layout_of_next_eq_ok read further, blank⟩

/-- An error behind some tokens describes a part of what is left behind the last of them. -/
theorem run_error_describes (scanner : Scanner) :
    ∀ error ∈ scanner.run.error?,
      error.Describes scanner.quote scanner.position scanner.rest ∧
        ∀ token ∈ scanner.run.tokens, token.span.stop ≤ error.span.position := by
  fun_induction Scanner.run scanner with
  | case1 scanner after read => simp
  | case2 scanner error after read =>
      intro other same
      obtain rfl : error = other := by simpa using same
      obtain ⟨char, text, skipped, failed⟩ := next_eq_error read
      refine ⟨?_, by simp⟩
      rw [← Text.leadingBlanks_append_skipBlanks scanner.rest, skipped]
      exact (readToken_describes failed).behind
  | case3 scanner token after read remaining ih =>
      obtain ⟨-, char, text, rest, skipped, readNext, rfl⟩ := next_eq_ok read
      have off := (readToken_readOff (isBlank_eq_false_of_skipBlanks skipped) readNext).1
      intro error failed
      obtain ⟨describes, later⟩ := ih error failed
      have behind : token.span.stop ≤ error.span.position := describes.start_le
      refine ⟨?_, List.forall_mem_cons.2 ⟨behind, later⟩⟩
      have lead : scanner.rest = Text.leadingBlanks scanner.rest ++
          (token.kind.spelling scanner.quote ++ rest) := by
        rw [← off.spelled, ← skipped, Text.leadingBlanks_append_skipBlanks]
      rw [lead]
      apply LexError.Describes.behind
      apply LexError.Describes.behind
      simpa [off.span, Span.stop] using describes

end Scanner

def LaidOut (quote : Char) (source : String) (tokens : List Token) (rest : List Char) : Prop :=
  ∃ front text, source.toList = front ++ text ∧ Layout quote (bytes front) text tokens rest

theorem lex_laidOut (quote : Char) (source : String) :
    ∃ rest, LaidOut quote source (lex quote source).tokens rest ∧
      ((lex quote source).error? = none → ∀ char ∈ rest, Text.isBlank char = true) := by
  obtain ⟨rest, layout, blank⟩ := Scanner.run_layout (Scanner.ofSource quote source) rfl
  exact ⟨rest, ⟨[], source.toList, rfl, layout⟩, blank⟩

/-! ## Order -/

theorem Token.ReadOff.stop_eq {quote : Char} {start : Nat} {text after : List Char}
    {token : Token} (off : token.ReadOff quote start text after) :
    token.span.stop = start + bytes (token.kind.spelling quote) := by
  rw [off.span, Span.stop]

namespace Layout

variable {quote : Char} {start : Nat} {text rest : List Char} {tokens : List Token}

theorem start_le (layout : Layout quote start text tokens rest) :
    ∀ token ∈ tokens, start ≤ token.span.position := by
  induction layout with
  | done => simp
  | @token start gap text after rest token tokens blanks visible read further ih =>
      have here : token.span.position = start + bytes gap := by rw [read.span]
      have forward := token.span.position_le_stop
      intro other member
      rcases List.mem_cons.1 member with rfl | later
      · omega
      · have behind := ih other later
        omega

theorem ordered (layout : Layout quote start text tokens rest) :
    tokens.Pairwise fun token next => token.span.stop ≤ next.span.position := by
  induction layout with
  | done => exact List.Pairwise.nil
  | token blanks visible read further ih => exact List.pairwise_cons.2 ⟨further.start_le, ih⟩

end Layout

namespace LaidOut

variable {quote : Char} {source : String} {tokens : List Token} {rest : List Char}

theorem ordered (laidOut : LaidOut quote source tokens rest) :
    tokens.Pairwise fun token next => token.span.stop ≤ next.span.position := by
  obtain ⟨front, text, whole, layout⟩ := laidOut
  exact layout.ordered

theorem head_and_tail {token : Token} (laidOut : LaidOut quote source (token :: tokens) rest) :
    token.StandsIn quote source ∧ LaidOut quote source tokens rest := by
  obtain ⟨front, text, whole, layout⟩ := laidOut
  cases layout with
  | @token _ gap text after _ _ _ blanks visible read further =>
  constructor
  · refine ⟨front ++ gap, text, after, by simp [whole], ?_⟩
    rwa [Text.bytes_append]
  · refine ⟨front ++ gap ++ token.kind.spelling quote, after, ?_, ?_⟩
    · rw [whole, read.spelled]
      simp
    · have offset : bytes (front ++ gap ++ token.kind.spelling quote) = token.span.stop := by
        simp [read.stop_eq, Nat.add_assoc]
      rwa [offset]

theorem standsIn (laidOut : LaidOut quote source tokens rest) :
    ∀ token ∈ tokens, token.StandsIn quote source := by
  induction tokens with
  | nil => simp
  | cons token tokens ih =>
      obtain ⟨stands, further⟩ := laidOut.head_and_tail
      exact List.forall_mem_cons.2 ⟨stands, ih further⟩

/-- Where no quote closes a token, a blank stands before the next one. -/
theorem blank_before {token next : Token}
    (laidOut : LaidOut quote source (token :: next :: tokens) rest)
    (bare : token.kind.endsQuoted = false) :
    ∃ lead char, next.span.before source = lead ++ [char] ∧ Text.isBlank char = true := by
  obtain ⟨front, text, whole, layout⟩ := laidOut
  cases layout with
  | @token _ gap text after _ _ _ _ _ read further =>
  cases further with
  | @token _ nextGap nextText nextAfter _ _ _ blanks visible nextRead _ =>
  have apart : nextGap ≠ [] := by
    intro glued
    obtain ⟨char, tail, same⟩ :=
      List.exists_cons_of_ne_nil nextRead.readable.spelling_ne_nil
    have first : nextText.head? = some char := by
      rw [nextRead.spelled, same]
      rfl
    have blank := read.delimited bare char (by simp [glued, first])
    rw [visible char first] at blank
    cases blank
  obtain ⟨lead, char, same⟩ := (List.eq_nil_or_concat nextGap).resolve_left apart
  refine ⟨front ++ gap ++ token.kind.spelling quote ++ lead, char, ?_, blanks char (by simp [same])⟩
  apply Span.before_eq nextText
  · rw [whole, read.spelled, same]
    simp
  · rw [nextRead.span, read.stop_eq, same]
    simp [Nat.add_assoc]

end LaidOut

theorem Token.standsIn_of_lex {quote : Char} {source : String} {token : Token}
    (cut : token ∈ (lex quote source).tokens) : token.StandsIn quote source := by
  obtain ⟨rest, laidOut, -⟩ := lex_laidOut quote source
  exact laidOut.standsIn token cut

end CommandLine
