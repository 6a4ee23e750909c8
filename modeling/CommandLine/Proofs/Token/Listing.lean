import CommandLine.Proofs.Text.Lines
import CommandLine.Proofs.Text.Writer
import CommandLine.Proofs.Token.Tokenize
import CommandLine.Token.Listing

/-!
# Listings line by line

A listing writes commands and the names of options as they are.  They cannot break a line
of it, whatever the quote, because no blank is part of them; all other texts are quoted.  So
a listing has a row for each token, which starts with the ends of its span, and colours are put
around the words for the kinds only: `listing_lined_of_tokenize`.
-/

set_option autoImplicit false

namespace CommandLine

open Text (Unbroken Lined Style Styled Writer padRight)

/-! ## Bare texts -/

theorem Bare.unbroken {quote : Char} {text : String} (bare : Bare quote text) :
    Unbroken text := by
  intro member
  have unblank := bare.unblank '\n' member
  cases unblank

theorem OptionUse.Named.unbroken {dashes : Dashes} {name : String} (named : Named dashes name) :
    Unbroken name := by
  intro member
  have inName := named.inName '\n' member
  cases inName

theorem Dashes.unbroken_text (dashes : Dashes) : Unbroken dashes.text := by
  cases dashes <;> decide

/-! ## Rows -/

namespace Token

/-- The row of a token in a listing, with something done to the word for its kind. -/
def rowWith (mark : Style → String → String) (token : Token) : String :=
  padRight 10 token.span.text ++ " " ++
    mark ⟨false, some token.kind.colour⟩ (padRight 8 token.kind.word) ++ " " ++ token.kind.detail

def row (token : Token) : String :=
  token.rowWith fun _ word => word

theorem exists_row_eq (token : Token) :
    ∃ rest, token.row = padRight 10 (toString token.span.position ++ ".." ++
      toString (token.span.position + token.span.length)) ++ " " ++ rest :=
  ⟨padRight 8 token.kind.word ++ " " ++ token.kind.detail, by
    simp only [row, rowWith, Span.text, Span.stop, String.append_assoc]⟩

theorem Kind.unbroken_word (kind : Kind) : Unbroken kind.word := by
  cases kind
  all_goals
    rw [word]
    decide

theorem Kind.Readable.unbroken_detail {quote : Char} {kind : Kind}
    (readable : kind.Readable quote) : Unbroken kind.detail := by
  cases kind with
  | program literal => exact Text.unbroken_quoted literal.text
  | command name => exact Bare.unbroken readable.1
  | option given =>
      have named := OptionUse.Readable.named readable
      rw [Kind.detail, Text.unbroken_append_iff, Text.unbroken_append_iff]
      refine ⟨⟨given.dashes.unbroken_text, named.unbroken⟩, ?_⟩
      split
      · decide
      · rw [Text.unbroken_append_iff]
        exact ⟨by decide, Text.unbroken_quoted _⟩
  | value literal => exact Text.unbroken_quoted literal.text

theorem unbroken_row {quote : Char} {token : Token} (readable : token.kind.Readable quote) :
    Unbroken token.row := by
  simp only [row, rowWith, Text.unbroken_append_iff, Text.unbroken_padRight_iff]
  exact ⟨⟨⟨⟨token.span.unbroken_text, by decide⟩, token.kind.unbroken_word⟩, by decide⟩,
    readable.unbroken_detail⟩

theorem output_line (writer : Writer) (token : Token) :
    writer.output token.line = token.rowWith writer.around ++ "\n" := by
  simp [line, rowWith, String.append_assoc]

theorem output_listing (writer : Writer) (tokens : List Token) :
    writer.output (listing tokens) = Text.ofLines (tokens.map (rowWith writer.around)) := by
  rw [listing, Writer.output_flatMap, Text.ofLines, List.map_map]
  simp only [output_line, Function.comp_def]

theorem unstyled_listing (tokens : List Token) :
    Styled.unstyled (listing tokens) = Text.ofLines (tokens.map row) := by
  have unmarked : Writer.plain.around = fun _ word => word := by
    funext style word
    simp [Writer.around, Writer.plain]
  rw [← Writer.output_plain, output_listing, unmarked]
  rfl

end Token

theorem Token.readable_of_tokenize {quote : Char} {source : String} {tokens : List Token}
    (cut : tokenize quote source = .ok tokens) : ∀ token ∈ tokens, token.kind.Readable quote := by
  intro token member
  have whole := (Lexed.complete_eq_ok_iff ..).1 cut
  obtain ⟨front, text, after, -, off⟩ : token.StandsIn quote source :=
    Token.standsIn_of_lex (by rwa [whole])
  exact off.readable

/-- A listing of the tokens of a source has a row for each token, which starts with the ends of
its span, and a writer puts its sequences around the words for the kinds and nowhere else. -/
theorem listing_lined_of_tokenize {quote : Char} {source : String} {tokens : List Token}
    (cut : tokenize quote source = .ok tokens) :
    Lined (tokens.map Token.row) (Styled.unstyled (Token.listing tokens)) ∧
      (∀ token : Token, ∃ rest, token.row = padRight 10 (toString token.span.position ++ ".." ++
        toString (token.span.position + token.span.length)) ++ " " ++ rest) ∧
      ∀ writer : Writer,
        writer.output (Token.listing tokens) =
            Text.ofLines (tokens.map (Token.rowWith writer.around)) ∧
          writer.keptOutput (Token.listing tokens) = Text.ofLines (tokens.map Token.row) := by
  have readable := Token.readable_of_tokenize cut
  refine ⟨?_, Token.exists_row_eq, fun writer => ⟨Token.output_listing writer tokens, ?_⟩⟩
  · rw [Token.unstyled_listing, Text.lined_ofLines_iff, List.forall_mem_map]
    intro token member
    exact Token.unbroken_row (readable token member)
  · rw [Writer.keptOutput_eq, Token.unstyled_listing]

theorem listing_lined_of_broken_value :
    let source := "app --n=\"a\nb\" run"
    let value : Value := ⟨⟨"a\nb", true⟩, ⟨8, 5⟩⟩
    let tokens : List Token := [⟨.program ⟨"app", false⟩, ⟨0, 3⟩⟩,
      ⟨.option ⟨"n", ⟨4, 3⟩, .long, some value⟩, ⟨4, 9⟩⟩, ⟨.command "run", ⟨14, 3⟩⟩]
    let rows := ["0..3       program  \"app\"", "4..13      option   --n = \"a\\nb\"",
      "14..17     command  run"]
    let coloured := ["0..3       \x1b[0m\x1b[35mprogram \x1b[0m \"app\"",
      "4..13      \x1b[0m\x1b[36moption  \x1b[0m --n = \"a\\nb\"",
      "14..17     \x1b[0m\x1b[32mcommand \x1b[0m run"]
    tokenize '"' source = .ok tokens ∧
      Lined rows (Styled.unstyled (Token.listing tokens)) ∧
      Writer.terminal.output (Token.listing tokens) = Text.ofLines coloured ∧
      Writer.terminal.keptOutput (Token.listing tokens) = Text.ofLines rows := by
  intro source value tokens rows coloured
  let pieces : List Piece := [⟨[], .program ⟨"app", false⟩⟩,
    ⟨[' '], .option ⟨"n", ⟨4, 3⟩, .long, some value⟩⟩, ⟨[' '], .command "run"⟩]
  have legible : Legible '"' (pieces.map Piece.kind) := by decide
  have spaced : Spaced pieces [] := by decide
  have same : String.ofList (written '"' pieces []) = source := by decide
  have places : placed '"' 0 pieces = tokens := by decide
  have cut : tokenize '"' source = .ok tokens := by
    rw [← same, ← places]
    exact (Lexed.complete_eq_ok_iff ..).2 (lex_written legible spaced)
  have shown : tokens.map Token.row = rows := by decide +kernel
  have marked : tokens.map (Token.rowWith Writer.terminal.around) = coloured := by decide +kernel
  obtain ⟨lined, -, writers⟩ := listing_lined_of_tokenize cut
  obtain ⟨output, kept⟩ := writers Writer.terminal
  rw [marked] at output
  rw [shown] at lined kept
  exact ⟨cut, lined, output, kept⟩

end CommandLine
