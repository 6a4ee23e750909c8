import CommandLine.Token.Scanner

/-!
# Reading tokens with lookahead

A reader takes tokens from a scanner one at a time.  It may look at the next token
before it takes it, and holds the token in between.  Looking leaves no more than
there was, and taking a token leaves less (`size_le_of_peek`, `size_lt_of_advance`).
-/

set_option autoImplicit false

namespace CommandLine

def Scanner.fetch (scanner : Scanner) : Except LexError (Option Token × Scanner) :=
  match scanner.next with
  | (none, after) => .ok (none, after)
  | (some (.ok token), after) => .ok (some token, after)
  | (some (.error error), _) => .error error

theorem Scanner.length_le_of_next_eq_none {scanner after : Scanner}
    (read : scanner.next = (none, after)) : after.rest.length ≤ scanner.rest.length := by
  unfold next at read
  split at read
  · cases read
    exact Nat.le_refl _
  · dsimp only at read
    split at read
    · cases read
      exact Nat.zero_le _
    · split at read <;> cases read

/-- A scanner, and the token that was looked at but not taken. -/
structure Reader where
  scanner : Scanner
  peeked? : Option Token
  deriving DecidableEq, Repr

namespace Reader

def ofSource (quote : Char) (source : String) : Reader :=
  ⟨Scanner.ofSource quote source, none⟩

def size (reader : Reader) : Nat :=
  reader.scanner.rest.length + reader.peeked?.toList.length

def peek (reader : Reader) : Except LexError (Option Token × Reader) :=
  match reader.peeked? with
  | some token => .ok (some token, reader)
  | none =>
      match reader.scanner.fetch with
      | .error error => .error error
      | .ok (next?, after) => .ok (next?, ⟨after, next?⟩)

def advance (reader : Reader) : Except LexError (Option Token × Reader) :=
  match reader.peeked? with
  | some token => .ok (some token, { reader with peeked? := none })
  | none =>
      match reader.scanner.fetch with
      | .error error => .error error
      | .ok (next?, after) => .ok (next?, ⟨after, none⟩)

theorem length_le_of_fetch {scanner after : Scanner} {next? : Option Token}
    (fetched : scanner.fetch = .ok (next?, after)) :
    after.rest.length + next?.toList.length ≤ scanner.rest.length := by
  unfold Scanner.fetch at fetched
  split at fetched
  · rename_i read
    cases fetched
    exact Scanner.length_le_of_next_eq_none read
  · rename_i read
    cases fetched
    exact Scanner.next_shortens read
  · cases fetched

theorem size_le_of_peek {reader after : Reader} {next? : Option Token}
    (looked : reader.peek = .ok (next?, after)) : after.size ≤ reader.size := by
  unfold peek at looked
  split at looked
  · cases looked
    exact Nat.le_refl _
  · split at looked
    · cases looked
    · rename_i fetched
      cases looked
      exact Nat.le_trans (length_le_of_fetch fetched) (Nat.le_add_right ..)

theorem size_of_advance {reader after : Reader} {next? : Option Token}
    (taken : reader.advance = .ok (next?, after)) :
    after.size + next?.toList.length ≤ reader.size := by
  unfold advance at taken
  split at taken
  · rename_i token held
    cases taken
    simp [size, held]
  · split at taken
    · cases taken
    · rename_i fetched
      cases taken
      exact Nat.le_trans (length_le_of_fetch fetched) (Nat.le_add_right ..)

theorem size_le_of_advance {reader after : Reader} {next? : Option Token}
    (taken : reader.advance = .ok (next?, after)) : after.size ≤ reader.size :=
  Nat.le_trans (Nat.le_add_right ..) (size_of_advance taken)

theorem size_lt_of_advance {reader after : Reader} {token : Token}
    (taken : reader.advance = .ok (some token, after)) : after.size < reader.size :=
  size_of_advance taken

end Reader

end CommandLine
