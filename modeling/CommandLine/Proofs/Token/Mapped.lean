import CommandLine.Proofs.Token.Tokenize

/-!
# Tokens under a change of spans

A function on spans changes all spans in a token or a lexical error, and nothing else.  The
readers of tokens use the offset at which they start for nothing but spans.  So a scanner that
stands at another offset, of the same or of another source, reads the same tokens and meets
the same error, with all spans shifted as far as it was (`Scanner.run_shifted`).
-/

set_option autoImplicit false

namespace CommandLine

open Text (bytes)

def Span.shifted (offset : Nat) (span : Span) : Span :=
  ⟨span.position + offset, span.length⟩

section Mapped

variable (change : Span → Span)

def Value.mapSpans (value : Value) : Value :=
  ⟨value.literal, change value.span⟩

def OptionUse.mapSpans (option : OptionUse) : OptionUse :=
  { option with
    nameSpan := change option.nameSpan
    value? := option.value?.map (Value.mapSpans change) }

def Token.Kind.mapSpans : Token.Kind → Token.Kind
  | .option given => .option (given.mapSpans change)
  | kind => kind

def Token.mapSpans (token : Token) : Token :=
  ⟨token.kind.mapSpans change, change token.span⟩

def LexError.mapSpans : LexError → LexError
  | .unterminatedQuote quote span => .unterminatedQuote quote (change span)
  | .malformedOption text reason span => .malformedOption text reason (change span)

def Lexed.mapSpans (lexed : Lexed) : Lexed :=
  ⟨lexed.tokens.map (Token.mapSpans change), lexed.error?.map (LexError.mapSpans change)⟩

/-- What a token is called in a message does not hang on its spans. -/
theorem Token.describe_mapSpans (token : Token) :
    (token.mapSpans change).describe = token.describe := by
  rcases token with ⟨kind, span⟩
  cases kind <;> rfl

end Mapped

/-! ## Readers at another offset -/

section Readers

variable (offset : Nat)

def shiftedRead {α : Type} (mapSpans : (Span → Span) → α → α) :
    Except LexError α → Except LexError α
  | .ok part => .ok (mapSpans (Span.shifted offset) part)
  | .error error => .error (error.mapSpans (Span.shifted offset))

def mapSpansBefore {α : Type} (mapSpans : (Span → Span) → α → α) (change : Span → Span)
    (read : α × List Char) : α × List Char :=
  (mapSpans change read.1, read.2)

theorem Span.stop_shifted (span : Span) : (span.shifted offset).stop = span.stop + offset :=
  Nat.add_right_comm ..

theorem Span.shifted_cover (span other : Span) :
    (span.shifted offset).cover (other.shifted offset) = (span.cover other).shifted offset := by
  simp only [Span.cover, Span.ofRange, Span.stop, Span.shifted, Span.mk.injEq]
  omega

theorem OptionUse.span_shifted (option : OptionUse) :
    (option.mapSpans (Span.shifted offset)).span = option.span.shifted offset := by
  rcases option with ⟨name, nameSpan, dashes, value?⟩
  cases value? with
  | none => rfl
  | some value => exact Span.shifted_cover offset nameSpan value.span

variable (quote : Char) (start : Nat)

theorem readQuoted_shifted (body : List Char) :
    readQuoted quote (start + offset) body =
      shiftedRead offset (mapSpansBefore Value.mapSpans) (readQuoted quote start body) := by
  unfold readQuoted
  cases closeQuote? quote body <;> rfl

theorem readAttached_shifted (missing : LexError) (text : List Char) :
    readAttached quote (start + offset) (missing.mapSpans (Span.shifted offset)) text =
      shiftedRead offset (mapSpansBefore Value.mapSpans)
        (readAttached quote start missing text) := by
  cases text with
  | nil => rfl
  | cons char rest =>
      simp only [readAttached]
      split
      · exact readQuoted_shifted offset quote start rest
      · split <;> rfl

theorem readOption_shifted (rest : List Char) :
    readOption quote (start + offset) rest =
      shiftedRead offset (mapSpansBefore Token.mapSpans) (readOption quote start rest) := by
  unfold readOption
  generalize readDashes rest = split
  obtain ⟨dashes, body⟩ := split
  dsimp only
  generalize body.takeWhile inOptionName = name
  let nameSpan : Span := ⟨start, dashes.size + bytes name⟩
  have valueStart : (nameSpan.shifted offset).stop + 1 = nameSpan.stop + 1 + offset := by
    rw [Span.stop_shifted, Nat.add_right_comm]
  split
  · rfl
  · split
    · rename_i valueText _
      let missing : LexError :=
        .malformedOption (String.ofList ('-' :: Text.word rest)) LexError.missingValue
          ⟨start, bytes ('-' :: Text.word rest)⟩
      have attached : readAttached quote ((nameSpan.shifted offset).stop + 1)
          (missing.mapSpans (Span.shifted offset)) valueText =
          shiftedRead offset (mapSpansBefore Value.mapSpans)
            (readAttached quote (nameSpan.stop + 1) missing valueText) := by
        rw [valueStart]
        exact readAttached_shifted offset quote _ missing valueText
      simp only [nameSpan, missing, Span.shifted, LexError.mapSpans] at attached
      rw [attached]
      cases readAttached quote (nameSpan.stop + 1) missing valueText with
      | error error => rfl
      | ok read =>
          obtain ⟨value, after⟩ := read
          let given : OptionUse := ⟨String.ofList name, nameSpan, dashes, some value⟩
          let shifted : OptionUse := given.mapSpans (Span.shifted offset)
          change Except.ok ((⟨.option shifted, shifted.span⟩ : Token), after) =
            Except.ok ((⟨.option shifted, given.span.shifted offset⟩ : Token), after)
          rw [OptionUse.span_shifted]
    · rfl

theorem readToken_shifted (first : Bool) (char : Char) (rest : List Char) :
    readToken quote first (start + offset) char rest =
      shiftedRead offset (mapSpansBefore Token.mapSpans)
        (readToken quote first start char rest) := by
  unfold readToken
  split
  · rw [readQuoted_shifted]
    cases readQuoted quote start rest with
    | error error => rfl
    | ok read => cases first <;> rfl
  · split
    · exact readOption_shifted offset quote start rest
    · cases first <;> rfl

end Readers

/-! ## Scanners at another offset -/

namespace Scanner

/-- A scanner of the same rest, as far behind in its source, which may be another one. -/
def shifted (source : String) (offset : Nat) (scanner : Scanner) : Scanner :=
  { scanner with source, position := scanner.position + offset }

variable (source : String) (offset : Nat)

/-- Where a scanner stands shows in the spans of its answer, and nowhere else. -/
theorem next_shifted (scanner : Scanner) :
    (scanner.shifted source offset).next =
      (scanner.next.1.map (shiftedRead offset Token.mapSpans),
        scanner.next.2.shifted source offset) := by
  obtain ⟨text, quote, rest, position, started, finished⟩ := scanner
  simp only [next, shifted, Nat.add_right_comm position offset]
  cases finished with
  | true => rfl
  | false =>
      cases Text.skipBlanks rest with
      | nil => rfl
      | cons char behind =>
          simp only [Bool.false_eq_true, if_false]
          generalize position + bytes (Text.leadingBlanks rest) = start
          rw [readToken_shifted]
          cases readToken quote (!started) start char behind with
          | error error => rfl
          | ok read =>
              simp only [shiftedRead, mapSpansBefore, Token.mapSpans, Span.stop_shifted,
                Option.map_some]

theorem run_shifted (scanner : Scanner) :
    (scanner.shifted source offset).run = scanner.run.mapSpans (Span.shifted offset) := by
  have step := next_shifted source offset
  fun_induction Scanner.run scanner with
  | case1 scanner after read =>
      have ended := step scanner
      rw [read] at ended
      exact run_of_next_eq_none ended
  | case2 scanner error after read =>
      have failed := step scanner
      rw [read] at failed
      exact run_of_next_eq_error failed
  | case3 scanner token after read remaining ih =>
      have told := step scanner
      rw [read] at told
      rw [run_of_next_eq_ok told, ih]
      rfl

end Scanner

end CommandLine
