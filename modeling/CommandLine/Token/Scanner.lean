import CommandLine.Token.Read

/-!
# Cutting a source into tokens

A scanner is a value that holds what is left of its source.  Each step skips
blanks, reads one token and returns the scanner after it.  A step that fails,
or finds the end, finishes the scanner: `next_of_finished` says that it reads
nothing from then on.  Each token shortens what is left (`next_shortens`), so a
scanner can be run to its end.
-/

set_option autoImplicit false

namespace CommandLine

structure Scanner where
  source : String
  quote : Char
  /-- What is left of the source. -/
  rest : List Char
  /-- The byte offset of `rest` in the source. -/
  position : Nat
  /-- Whether a token has been asked for, so that the next one is no program. -/
  started : Bool
  /-- Whether the end or an error has been met. -/
  finished : Bool
  deriving DecidableEq, Repr

namespace Scanner

def ofSource (quote : Char) (source : String) : Scanner :=
  { source, quote, rest := source.toList, position := 0, started := false, finished := false }

def next (scanner : Scanner) : Option (Except LexError Token) × Scanner :=
  if scanner.finished then
    (none, scanner)
  else
    let position := scanner.position + Text.bytes (Text.leadingBlanks scanner.rest)
    match Text.skipBlanks scanner.rest with
    | [] => (none, { scanner with rest := [], position, finished := true })
    | char :: rest =>
        match readToken scanner.quote (!scanner.started) position char rest with
        | .ok (token, after) =>
            (some (.ok token),
              { scanner with rest := after, position := token.span.stop, started := true })
        | .error error =>
            (some (.error error),
              { scanner with
                rest := char :: rest, position, started := true, finished := true })

theorem next_of_finished {scanner : Scanner} (done : scanner.finished = true) :
    scanner.next = (none, scanner) := by
  simp [next, done]

theorem finished_of_next_eq_none {scanner after : Scanner}
    (read : scanner.next = (none, after)) : after.finished = true := by
  unfold next at read
  split at read
  · cases read
    assumption
  · dsimp only at read
    split at read
    · cases read
      rfl
    · split at read <;> cases read

theorem next_shortens {scanner after : Scanner} {token : Token}
    (read : scanner.next = (some (.ok token), after)) :
    after.rest.length < scanner.rest.length := by
  unfold next at read
  split at read
  · cases read
  · dsimp only at read
    have shorter : (Text.skipBlanks scanner.rest).length ≤ scanner.rest.length :=
      (List.dropWhile_suffix _).length_le
    split at read
    · cases read
    · rename_i char rest blanks
      rw [blanks, List.length_cons] at shorter
      split at read
      · rename_i found remaining readNext
        have bound := readToken_length_le readNext
        cases read
        simp only
        omega
      · cases read

end Scanner

/-! ## Whole sources -/

/-- The tokens of a source up to its end or its first error. -/
structure Lexed where
  tokens : List Token
  error? : Option LexError
  deriving DecidableEq, Repr

def Lexed.size (lexed : Lexed) : Nat :=
  lexed.tokens.length + if lexed.error?.isSome then 1 else 0

def Lexed.complete (lexed : Lexed) : Except LexError (List Token) :=
  match lexed.error? with
  | none => .ok lexed.tokens
  | some error => .error error

def Scanner.run (scanner : Scanner) : Lexed :=
  match _step : scanner.next with
  | (none, _) => ⟨[], none⟩
  | (some (.error error), _) => ⟨[], some error⟩
  | (some (.ok token), after) =>
      let remaining := after.run
      ⟨token :: remaining.tokens, remaining.error?⟩
termination_by scanner.rest.length
decreasing_by exact Scanner.next_shortens _step

namespace Scanner

variable {scanner after : Scanner}

theorem run_of_next_eq_none (read : scanner.next = (none, after)) : scanner.run = ⟨[], none⟩ := by
  rw [run]
  split <;> simp_all

theorem run_of_next_eq_error {error : LexError}
    (read : scanner.next = (some (.error error), after)) : scanner.run = ⟨[], some error⟩ := by
  rw [run]
  split <;> simp_all

theorem run_of_next_eq_ok {token : Token} (read : scanner.next = (some (.ok token), after)) :
    scanner.run = ⟨token :: after.run.tokens, after.run.error?⟩ := by
  rw [run]
  split <;> simp_all

theorem run_of_finished (done : scanner.finished = true) : scanner.run = ⟨[], none⟩ :=
  run_of_next_eq_none (next_of_finished done)

end Scanner

def lex (quote : Char) (source : String) : Lexed :=
  (Scanner.ofSource quote source).run

def tokenize (quote : Char) (source : String) : Except LexError (List Token) :=
  (lex quote source).complete

end CommandLine
