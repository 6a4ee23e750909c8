import CommandLine.Proofs.Token.Layout
import CommandLine.Proofs.Token.Recognition
import Mathlib.Data.List.Chain

/-!
# Written lines

A line is written from pieces: blanks, and behind them the spelling of a token.
`placed` computes where the tokens of a written line start and end.  Every layout is
such a line (`Layout.exists_written`), and a line that keeps its pieces apart is a
layout of their tokens (`layout_written`).

Two tokens, or their kinds, are equal up to spans if nothing is left of the
difference once their spans are wiped out (`unplaced`).
-/

set_option autoImplicit false

namespace CommandLine

open Text (bytes AtBreak)

/-! ## Kinds and their places -/

def Value.unplaced (value : Value) : Value :=
  ⟨value.literal, .point 0⟩

namespace OptionUse

def unplaced (option : OptionUse) : OptionUse :=
  { option with nameSpan := .point 0, value? := option.value?.map Value.unplaced }

def placed (quote : Char) (start : Nat) (option : OptionUse) : OptionUse :=
  let valueStart := start + bytes option.head + 1
  { option with
    nameSpan := ⟨start, bytes option.head⟩
    value? := option.value?.map fun value =>
      ⟨value.literal, ⟨valueStart, bytes (value.literal.spelling quote)⟩⟩ }

@[simp]
theorem unplaced_placed (quote : Char) (start : Nat) (option : OptionUse) :
    (option.placed quote start).unplaced = option.unplaced := by
  rcases option with ⟨name, nameSpan, dashes, value?⟩
  cases value? <;> rfl

@[simp]
theorem spelling_placed (quote : Char) (start : Nat) (option : OptionUse) :
    (option.placed quote start).spelling quote = option.spelling quote := by
  rcases option with ⟨name, nameSpan, dashes, value?⟩
  cases value? <;> rfl

theorem placedAt_placed (quote : Char) (start : Nat) (option : OptionUse) :
    (option.placed quote start).PlacedAt quote start := by
  refine ⟨rfl, ?_⟩
  intro value given
  obtain ⟨original, -, rfl⟩ := Option.map_eq_some_iff.1 given
  rfl

theorem PlacedAt.eq_placed {quote : Char} {start : Nat} {option : OptionUse}
    (placedAt : option.PlacedAt quote start) : option = option.placed quote start := by
  have name := placedAt.name
  have value := placedAt.value
  rcases option with ⟨text, nameSpan, dashes, value?⟩
  change nameSpan = ⟨start, bytes (dashes.text.toList ++ text.toList)⟩ at name
  subst name
  cases value? with
  | none => rfl
  | some given =>
      rcases given with ⟨literal, span⟩
      have place := value ⟨literal, span⟩ rfl
      dsimp only at place
      subst place
      rfl

theorem Readable.placed {quote : Char} {option : OptionUse} (readable : option.Readable quote)
    (start : Nat) : (option.placed quote start).Readable quote := by
  refine ⟨readable.named, ?_⟩
  intro value given
  obtain ⟨original, own, rfl⟩ := Option.map_eq_some_iff.1 given
  exact readable.value original own

end OptionUse

namespace Token.Kind

def unplaced : Token.Kind → Token.Kind
  | .option given => .option given.unplaced
  | kind => kind

def placed (quote : Char) (start : Nat) (kind : Token.Kind) : Token :=
  { kind := match kind with
      | .option given => .option (given.placed quote start)
      | other => other
    span := ⟨start, bytes (kind.spelling quote)⟩ }

variable (quote : Char) (start : Nat) (kind : Token.Kind)

@[simp]
theorem unplaced_placed : (kind.placed quote start).kind.unplaced = kind.unplaced := by
  cases kind <;> simp [placed, unplaced]

@[simp]
theorem spelling_placed : (kind.placed quote start).kind.spelling quote = kind.spelling quote := by
  cases kind <;> simp [placed, spelling]

@[simp]
theorem endsQuoted_placed : (kind.placed quote start).kind.endsQuoted = kind.endsQuoted := by
  cases kind with
  | option given =>
      cases value : given.value? <;> simp [placed, endsQuoted, OptionUse.placed, value]
  | program literal => rfl
  | command name => rfl
  | value literal => rfl

@[simp]
theorem isProgram_placed : (kind.placed quote start).kind.isProgram = kind.isProgram := by
  cases kind <;> rfl

theorem canStart_placed :
    (kind.placed quote start).kind.CanStart quote ↔ kind.CanStart quote := by
  cases kind <;> exact Iff.rfl

variable {quote start kind}

theorem readOff_placed {after : List Char} (readable : kind.Readable quote)
    (delimited : kind.endsQuoted = false → AtBreak after) :
    (kind.placed quote start).ReadOff quote start (kind.spelling quote ++ after) after := by
  refine ⟨by simp, by rw [spelling_placed]; rfl, ?_, ?_, by simpa using delimited⟩
  · intro given same
    cases kind with
    | option original =>
        cases same
        exact original.placedAt_placed quote start
    | program literal => cases same
    | command name => cases same
    | value literal => cases same
  · cases kind with
    | option original => exact OptionUse.Readable.placed readable start
    | program literal => exact readable
    | command name => exact readable
    | value literal => exact readable

/-- Blanks are skipped before a token, so its spelling does not start with one. -/
theorem Readable.unblank (readable : kind.Readable quote) (starts : kind.CanStart quote) :
    ∀ char ∈ (kind.spelling quote).head?, Text.isBlank char = false := by
  have bare {name : String} (word : Bare quote name) :
      ∀ char ∈ name.toList.head?, Text.isBlank char = false := by
    intro char first
    exact word.unblank char (List.mem_of_head? first)
  cases kind with
  | program literal =>
      rcases literal with ⟨text, quoted⟩
      cases quoted with
      | true => simpa [spelling, Literal.spelling] using starts rfl
      | false => exact bare readable
  | command name => exact bare readable.1
  | option given =>
      rw [spelling, given.head?_spelling]
      simp [Text.isBlank]
  | value literal =>
      have quoted : Text.isBlank quote = false := starts
      simpa [spelling, Literal.spelling, readable.2] using quoted

end Token.Kind

theorem Token.ReadOff.eq_placed {quote : Char} {start : Nat} {text after : List Char}
    {token : Token} (off : token.ReadOff quote start text after) :
    token = token.kind.placed quote start := by
  have place := off.span
  have parts := off.parts
  rcases token with ⟨kind, span⟩
  dsimp only at place parts
  subst place
  cases kind with
  | option given =>
      have same := (parts given rfl).eq_placed
      simp [Token.Kind.placed, ← same]
  | program literal => rfl
  | command name => rfl
  | value literal => rfl

/-! ## Pieces of a line -/

structure Piece where
  gap : List Char
  kind : Token.Kind

def Piece.text (quote : Char) (piece : Piece) : List Char :=
  piece.gap ++ piece.kind.spelling quote

/-- A line of some pieces, with blanks behind the last one. -/
def written (quote : Char) (pieces : List Piece) (tail : List Char) : List Char :=
  pieces.flatMap (Piece.text quote) ++ tail

def placed (quote : Char) (start : Nat) : List Piece → List Token
  | [] => []
  | piece :: rest =>
      piece.kind.placed quote (start + bytes piece.gap) ::
        placed quote (start + bytes (piece.text quote)) rest

/-- Pieces can be told apart: gaps are blank, and one between two tokens is empty only
behind a quote that closes the first. -/
structure Spaced (pieces : List Piece) (tail : List Char) : Prop where
  gaps : ∀ piece ∈ pieces, ∀ char ∈ piece.gap, Text.isBlank char = true
  tail : ∀ char ∈ tail, Text.isBlank char = true
  apart : pieces.IsChain fun piece next => piece.kind.endsQuoted = false → next.gap ≠ []

instance (pieces : List Piece) (tail : List Char) : Decidable (Spaced pieces tail) :=
  decidable_of_iff
    ((∀ piece ∈ pieces, piece.gap.all Text.isBlank = true) ∧ tail.all Text.isBlank = true ∧
      pieces.IsChain fun piece next => piece.kind.endsQuoted = false → next.gap ≠ []) <| by
    simp only [List.all_eq_true]
    exact ⟨fun ⟨gaps, tail, apart⟩ => ⟨gaps, tail, apart⟩,
      fun spaced => ⟨spaced.gaps, spaced.tail, spaced.apart⟩⟩

theorem written_cons (quote : Char) (piece : Piece) (rest : List Piece) (tail : List Char) :
    written quote (piece :: rest) tail = piece.text quote ++ written quote rest tail := by
  simp [written]

theorem Spaced.cons {piece : Piece} {rest : List Piece} {tail : List Char}
    (spaced : Spaced (piece :: rest) tail) : Spaced rest tail :=
  ⟨fun other member => spaced.gaps other (by simp [member]), spaced.tail,
    (List.isChain_cons.1 spaced.apart).2⟩

/-- What stands behind a piece cannot belong to it. -/
theorem Spaced.atBreak {quote : Char} {piece : Piece} {rest : List Piece} {tail : List Char}
    (spaced : Spaced (piece :: rest) tail) (bare : piece.kind.endsQuoted = false) :
    AtBreak (written quote rest tail) := by
  cases rest with
  | nil =>
      intro char first
      exact spaced.tail char (List.mem_of_head? first)
  | cons next rest =>
      have apart := (List.isChain_cons.1 spaced.apart).1 next rfl bare
      obtain ⟨char, gap, same⟩ := List.exists_cons_of_ne_nil apart
      have blank := spaced.gaps next (by simp) char (by simp [same])
      intro other first
      obtain rfl : char = other := by simpa [written_cons, Piece.text, same] using first
      exact blank

theorem layout_written {quote : Char} {pieces : List Piece} {tail : List Char}
    (spaced : Spaced pieces tail)
    (readable : ∀ piece ∈ pieces, piece.kind.Readable quote ∧ piece.kind.CanStart quote)
    (start : Nat) :
    Layout quote start (written quote pieces tail) (placed quote start pieces) tail := by
  induction pieces generalizing start with
  | nil => exact .done start tail
  | cons piece rest ih =>
      obtain ⟨legible, starts⟩ := readable piece (by simp)
      have further := ih spaced.cons (fun other member => readable other (by simp [member]))
        (start + bytes (piece.text quote))
      rw [written_cons, Piece.text, List.append_assoc]
      refine .token (spaced.gaps piece (by simp)) ?_
        (Token.Kind.readOff_placed legible spaced.atBreak) ?_
      · intro char first
        rw [List.head?_append_of_ne_nil _ legible.spelling_ne_nil] at first
        exact legible.unblank starts char first
      · simpa [Token.Kind.placed, Span.stop, Piece.text, Nat.add_assoc] using further

/-- Every layout was written from pieces. -/
theorem Layout.exists_written {quote : Char} {start : Nat} {text rest : List Char}
    {tokens : List Token} (layout : Layout quote start text tokens rest) :
    ∃ pieces : List Piece, pieces.map Piece.kind = tokens.map Token.kind ∧
      text = written quote pieces rest ∧ tokens = placed quote start pieces ∧
      (∀ piece ∈ pieces, (∀ char ∈ piece.gap, Text.isBlank char = true) ∧
        piece.kind.Readable quote ∧
        ∀ char ∈ (piece.kind.spelling quote).head?, Text.isBlank char = false) ∧
      pieces.IsChain fun piece next => piece.kind.endsQuoted = false → next.gap ≠ [] := by
  induction layout with
  | done start rest => exact ⟨[], rfl, rfl, rfl, by simp, .nil⟩
  | @token start gap text after rest token tokens blanks visible read further ih =>
      obtain ⟨pieces, kinds, same, tokensPlaced, each, apart⟩ := ih
      have first : text.head? = (token.kind.spelling quote).head? := by
        rw [read.spelled, List.head?_append_of_ne_nil _ read.readable.spelling_ne_nil]
      refine ⟨⟨gap, token.kind⟩ :: pieces, ?_, ?_, ?_, ?_, ?_⟩
      · simp [kinds]
      · rw [written_cons, ← same, Piece.text, List.append_assoc, ← read.spelled]
      · have stop : token.span.stop = start + bytes (Piece.text quote ⟨gap, token.kind⟩) := by
          rw [read.stop_eq, Piece.text, Text.bytes_append, Nat.add_assoc]
        rw [placed, ← stop, ← tokensPlaced, ← read.eq_placed]
      · refine List.forall_mem_cons.2 ⟨⟨blanks, read.readable, ?_⟩, each⟩
        rwa [← first]
      · -- glued to a bare spelling, the next one would start with a blank
        refine List.isChain_cons.2 ⟨?_, apart⟩
        intro next second bare glued
        obtain ⟨more, rfl⟩ := List.head?_eq_some_iff.1 second
        obtain ⟨-, legible, unblank⟩ := each next (by simp)
        obtain ⟨char, spelled, head⟩ := List.exists_cons_of_ne_nil legible.spelling_ne_nil
        have begins : after.head? = some char := by
          rw [same, written_cons, Piece.text, glued, head]
          rfl
        have blank := read.delimited bare char begins
        rw [unblank char (by rw [head]; rfl)] at blank
        cases blank

end CommandLine
