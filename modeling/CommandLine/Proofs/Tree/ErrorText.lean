import CommandLine.Proofs.Tree.Offence
import Mathlib.Control.Monad.Basic

/-!
# Errors and the text at their spans

The span of every error cuts a text out of the source, and the error is true of this text:
it is a quotation that is not closed, a word that is no option, a command, a quoted value,
or nothing at the end of a blank source (`errors_point_at_text`).
-/

set_option autoImplicit false

namespace CommandLine

open Text (bytes AtBreak)

/-- The text at the span of a lexical error is what the error says. -/
def LexError.PointsAt (quote : Char) (source : String) : LexError → Prop
  | .unterminatedQuote opened span =>
      opened = quote ∧ span.stop = bytes source.toList ∧
        ∃ body, span.slice? source = some (String.ofList (quote :: body)) ∧ quote ∉ body
  | .malformedOption text reason span =>
      span.slice? source = some text ∧ (∀ char ∈ text.toList, Text.isBlank char = false) ∧
        (∃ before after, Text.splitAt? source.toList span.stop = some (before, after) ∧
          AtBreak after) ∧
        Misspelled text.toList reason

/-- The text at the span of a syntax error is what the error says, and where a token is
reported, the whole of that token. -/
def SyntaxError.PointsAt (settings : Settings) (source : String) : SyntaxError → Prop
  | .lexical error => error.PointsAt settings.quote source
  | .nestingTooDeep limit span =>
      limit = settings.maxDepth ∧
        ∃ name, ⟨.command name, span⟩ ∈ (lex settings.quote source).tokens ∧
          span.slice? source = some name
  | .unexpectedToken expected found span =>
      (expected = "a command or an option" ∧
        ∃ body, ⟨.value ⟨body, true⟩, span⟩ ∈ (lex settings.quote source).tokens ∧
          span.slice? source =
            some (String.ofList (settings.quote :: (body.toList ++ [settings.quote]))) ∧
          settings.quote ∉ body.toList ∧ found = "quoted value \"" ++ body ++ "\"") ∨
      (expected = "a program name" ∧ found = "end of input" ∧ Text.allBlank source = true ∧
        span = .point (bytes source.toList) ∧ span.slice? source = some "")

/-! ## Lexical errors -/

theorem LexError.Describes.pointsAt {quote : Char} {source : String} {error : LexError}
    (describes : error.Describes quote 0 source.toList) : error.PointsAt quote source := by
  cases describes with
  | @unterminated front body whole unclosed =>
      rw [Nat.zero_add]
      refine ⟨rfl, ?_, body, ?_, unclosed⟩
      · rw [whole, Text.bytes_append, Span.stop]
      · exact Span.slice?_of_append [] (by simpa using whole)
  | @malformed front word after reason whole unblank delimited misspelled =>
      rw [Nat.zero_add]
      refine ⟨Span.slice?_of_append after whole, ?_, ⟨front ++ word, after, ?_, delimited⟩, ?_⟩
      · rwa [String.toList_ofList]
      · rw [Text.splitAt?_eq_some_iff]
        exact ⟨whole, Text.bytes_append ..⟩
      · rwa [String.toList_ofList]

theorem LexError.pointsAt_of_tokenize {quote : Char} {source : String} {error : LexError}
    (failed : tokenize quote source = .error error) : error.PointsAt quote source := by
  have stopped : error ∈ (Scanner.ofSource quote source).run.error? :=
    (Lexed.complete_eq_error_iff ..).1 failed
  exact (Scanner.run_error_describes _ error stopped).1.pointsAt

/-- A source without tokens is blank. -/
theorem allBlank_of_tokenize {quote : Char} {source : String}
    (cut : tokenize quote source = .ok []) : Text.allBlank source = true := by
  obtain ⟨pieces, tail, kinds, whole, -, spaced, -⟩ :=
    exists_written_of_lex ((Lexed.complete_eq_ok_iff ..).1 cut)
  obtain rfl : pieces = [] := List.map_eq_nil_iff.1 kinds
  rw [Text.allBlank, whole]
  exact List.all_eq_true.2 spaced.tail

/-- Every error points at the text that it describes. -/
theorem errors_point_at_text (settings : Settings) (source : String) :
    (∀ error, tokenize settings.quote source = .error error →
      error.PointsAt settings.quote source) ∧
    ∀ error, Tree.parse settings source = .error error → error.PointsAt settings source := by
  refine ⟨fun error => LexError.pointsAt_of_tokenize, ?_⟩
  intro error failed
  rcases (parse_eq_error_iff ..).1 failed with ⟨cut, rfl⟩ | ⟨offends, -⟩
  · refine .inr ⟨rfl, rfl, allBlank_of_tokenize cut, rfl, ?_⟩
    have whole : source.toList = source.toList ++ [] ++ [] := by simp
    exact Span.slice?_of_append [] whole
  · cases offends with
    | @misplaced index literal span behind found loose =>
        have member := List.mem_of_getElem? found
        have stands := Token.standsIn_of_lex member
        have readable := stands.readable
        rcases literal with ⟨body, quoted⟩
        obtain rfl : quoted = true := readable.2
        exact .inl ⟨rfl, body, member, stands.sliced.whole, readable.1, rfl⟩
    | @tooDeep index name span found own deep =>
        have member := List.mem_of_getElem? found
        have sliced := (Token.standsIn_of_lex member).sliced.whole
        rw [Token.Kind.spelling, String.ofList_toList] at sliced
        exact ⟨rfl, name, member, sliced⟩
    | lexical stopped => exact LexError.pointsAt_of_tokenize stopped

theorem errors_point_at_text_with_blank_quote :
    let settings : Settings := ⟨' ', .attached, 1⟩
    let unclosed : LexError := .unterminatedQuote ' ' ⟨7, 2⟩
    let tooDeep : SyntaxError := .nestingTooDeep 1 ⟨5, 2⟩
    tokenize settings.quote "ä --n= b" = .error unclosed ∧
      unclosed.PointsAt settings.quote "ä --n= b" ∧
      Tree.parse settings "ä a é" = .error tooDeep ∧ tooDeep.PointsAt settings "ä a é" := by
  intro settings unclosed tooDeep
  have cut : tokenize settings.quote "ä --n= b" = .error unclosed := by decide +kernel
  have read : Tree.parse settings "ä a é" = .error tooDeep := by
    rw [Tree.parse_eq_ofLexed]
    decide +kernel
  exact ⟨cut, (errors_point_at_text settings "ä --n= b").1 unclosed cut, read,
    (errors_point_at_text settings "ä a é").2 tooDeep read⟩

end CommandLine
