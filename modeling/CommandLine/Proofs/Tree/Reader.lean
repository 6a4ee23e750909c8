import CommandLine.Tree.Reader

/-!
# What lies ahead of a reader

A reader has the tokens ahead of it that its scanner still gives, behind the one
that it holds.  Looking at a token changes nothing ahead, and taking one takes the
first of them, so that the held token does not show (`sight`).
-/

set_option autoImplicit false

namespace CommandLine

theorem Scanner.run_of_fetch_eq_error {scanner : Scanner} {error : LexError}
    (failed : scanner.fetch = .error error) : scanner.run = ⟨[], some error⟩ := by
  unfold fetch at failed
  split at failed
  · cases failed
  · cases failed
  · rename_i read
    cases failed
    exact run_of_next_eq_error read

theorem Scanner.run_of_fetch_eq_none {scanner after : Scanner}
    (ended : scanner.fetch = .ok (none, after)) :
    scanner.run = ⟨[], none⟩ ∧ after.run = ⟨[], none⟩ := by
  unfold fetch at ended
  split at ended
  · rename_i read
    cases ended
    exact ⟨run_of_next_eq_none read, run_of_finished (finished_of_next_eq_none read)⟩
  · cases ended
  · cases ended

theorem Scanner.run_of_fetch_eq_some {scanner after : Scanner} {token : Token}
    (fetched : scanner.fetch = .ok (some token, after)) :
    scanner.run = ⟨token :: after.run.tokens, after.run.error?⟩ := by
  unfold fetch at fetched
  split at fetched
  · cases fetched
  · rename_i read
    cases fetched
    exact run_of_next_eq_ok read
  · cases fetched

namespace Reader

def remaining (reader : Reader) : Lexed :=
  ⟨reader.peeked?.toList ++ reader.scanner.run.tokens, reader.scanner.run.error?⟩

theorem remaining_ofSource (quote : Char) (source : String) :
    (ofSource quote source).remaining = lex quote source := rfl

/-- What there is to see for a reader, and what is ahead of it then. -/
inductive Sight (reader : Reader) : Prop
  | failed (error : LexError) (ahead : reader.remaining = ⟨[], some error⟩)
      (look : reader.peek = .error error) (take : reader.advance = .error error)
  | ended (looked after : Reader) (ahead : reader.remaining = ⟨[], none⟩)
      (look : reader.peek = .ok (none, looked)) (still : looked.remaining = ⟨[], none⟩)
      (take : reader.advance = .ok (none, after))
  | token (token : Token) (looked after : Reader)
      (ahead : reader.remaining = ⟨token :: after.remaining.tokens, after.remaining.error?⟩)
      (look : reader.peek = .ok (some token, looked))
      (still : looked.remaining = reader.remaining)
      (take : reader.advance = .ok (some token, after))
      (takeLooked : looked.advance = .ok (some token, after))

theorem sight (reader : Reader) : reader.Sight := by
  rcases reader with ⟨scanner, peeked?⟩
  cases peeked? with
  | some token => exact .token token _ ⟨scanner, none⟩ rfl rfl rfl rfl rfl
  | none =>
      cases fetched : scanner.fetch with
      | error error =>
          have stopped := Scanner.run_of_fetch_eq_error fetched
          apply Sight.failed error
          · rw [remaining, stopped]
            rfl
          · simp [peek, fetched]
          · simp [advance, fetched]
      | ok answer =>
          rcases answer with ⟨next?, after⟩
          cases next? with
          | none =>
              obtain ⟨here, there⟩ := Scanner.run_of_fetch_eq_none fetched
              apply Sight.ended ⟨after, none⟩ ⟨after, none⟩
              · rw [remaining, here]
                rfl
              · simp [peek, fetched]
              · rw [remaining, there]
                rfl
              · simp [advance, fetched]
          | some token =>
              have run := Scanner.run_of_fetch_eq_some fetched
              apply Sight.token token ⟨after, some token⟩ ⟨after, none⟩
              · rw [remaining, run]
                rfl
              · simp [peek, fetched]
              · simp [remaining, run]
              · simp [advance, fetched]
              · rfl

end Reader

end CommandLine
