import CommandLine.Proofs.Text.Guarded
import CommandLine.Proofs.Token.Layout

/-!
# Scanners in machine words

A machine holds a scanner as a `Cursor`: it keeps the whole source and an offset, and cuts the
source wherever it reads.  A cut out of range or inside a character would end in a `Trap`.  A
cursor for a scanner that stands in its source never ends in one, and it reads what the scanner
reads: `Scanner.Step.cursor_next`.

There is a lemma for each reader of the machine: behind a known offset, it does what the reader
of texts does.  What the machine adds up stays within the source, so its sums are words anyway.
-/

set_option autoImplicit false

namespace CommandLine

open Text (bytes RestAt)

/-- A scanner that keeps an offset and not what is left of its source. -/
structure Cursor where
  source : String
  quote : Char
  position : Nat
  started : Bool
  finished : Bool
  deriving DecidableEq, Repr

namespace Cursor

variable (cursor : Cursor)

def rest : Except Trap (List Char) :=
  Text.cutFrom cursor.source.toList cursor.position

def skipBlanks : Except Trap Cursor := do
  let rest ← cursor.rest
  let skipped ← Word.sub (bytes rest) (bytes (Text.skipBlanks rest))
  return { cursor with position := cursor.position + skipped }

def wordStop (start : Nat) : Except Trap Nat := do
  let rest ← Text.cutFrom cursor.source.toList start
  return ((Text.find? Text.isBlank rest).map (start + ·)).getD (bytes cursor.source.toList)

def readQuoted (start : Nat) : Except Trap (Except LexError Value) := do
  let bodyStart := start + cursor.quote.utf8Size
  let body ← Text.cutFrom cursor.source.toList bodyStart
  match Text.find? (· == cursor.quote) body with
  | some length =>
      let bodyStop := bodyStart + length
      let inside ← Text.cutBetween cursor.source.toList bodyStart bodyStop
      return .ok ⟨⟨String.ofList inside, true⟩,
        .ofRange start (bodyStop + cursor.quote.utf8Size)⟩
  | none =>
      return .error (.unterminatedQuote cursor.quote
        (.ofRange start (bytes cursor.source.toList)))

def readAttached (start : Nat) (missing : LexError) : Except Trap (Except LexError Value) := do
  let rest ← Text.cutFrom cursor.source.toList start
  if rest.head? = some cursor.quote then
    cursor.readQuoted start
  else
    let stop ← cursor.wordStop start
    if stop = start then
      return .error missing
    else
      let inside ← Text.cutBetween cursor.source.toList start stop
      return .ok ⟨⟨String.ofList inside, false⟩, .ofRange start stop⟩

def readBehindName (nameStop : Nat) (token : Option Value → Token) (missing : LexError) :
    Except Trap (Except LexError Token) := do
  let behind ← Text.cutFrom cursor.source.toList nameStop
  if behind.head? = some '=' then
    let value ← cursor.readAttached (nameStop + 1) missing
    return value.map fun value => token (some value)
  else
    return .ok (token none)

def readOption (start : Nat) : Except Trap (Except LexError Token) := do
  let wordStop ← cursor.wordStop start
  let word ← Text.cutBetween cursor.source.toList start wordStop
  let malformed (reason : String) : LexError :=
    .malformedOption (String.ofList word) reason ⟨start, bytes word⟩
  let dashes : Dashes := if ['-', '-'].isPrefixOf word then .long else .short
  let nameStart := start + dashes.size
  let behindDashes ← Text.cutFrom cursor.source.toList nameStart
  let most ← Word.sub (bytes cursor.source.toList) nameStart
  let nameLength := (Text.find? (fun char => !inOptionName char) behindDashes).getD most
  let nameStop := nameStart + nameLength
  if nameLength = 0 then
    return .error (malformed LexError.missingName)
  else
    let name ← Text.cutBetween cursor.source.toList nameStart nameStop
    let token (value? : Option Value) : Token :=
      let option : OptionUse := ⟨String.ofList name, .ofRange start nameStop, dashes, value?⟩
      ⟨.option option, option.span⟩
    cursor.readBehindName nameStop token (malformed LexError.missingValue)

def readToken : Except Trap (Except LexError Token) := do
  let rest ← cursor.rest
  if rest.head? = some cursor.quote then
    let value ← cursor.readQuoted cursor.position
    return value.map fun value =>
      ⟨if cursor.started then .value value.literal else .program value.literal, value.span⟩
  else if cursor.started ∧ rest.head? = some '-' then
    cursor.readOption cursor.position
  else
    let stop ← cursor.wordStop cursor.position
    let word ← Text.cutBetween cursor.source.toList cursor.position stop
    let name := String.ofList word
    return .ok ⟨if cursor.started then .command name else .program ⟨name, false⟩,
      .ofRange cursor.position stop⟩

def next : Except Trap (Option (Except LexError Token) × Cursor) := do
  if cursor.finished then
    return (none, cursor)
  else
    let skipped ← cursor.skipBlanks
    if bytes skipped.source.toList ≤ skipped.position then
      return (none, { skipped with finished := true })
    else
      match ← skipped.readToken with
      | .ok token =>
          return (some (.ok token),
            { skipped with position := token.span.stop, started := true })
      | .error error =>
          return (some (.error error), { skipped with started := true, finished := true })

def steps (cursor : Cursor) : Nat → Except Trap Cursor
  | 0 => .ok cursor
  | count + 1 => do
      let answer ← cursor.next
      answer.2.steps count

end Cursor

/-! ## Readers behind an offset -/

theorem Text.word_cons {char : Char} (unblank : Text.isBlank char = false) (rest : List Char) :
    Text.word (char :: rest) = char :: Text.word rest :=
  List.takeWhile_cons_of_pos (by simp [unblank])

theorem find?_eq_closeQuote? (quote : Char) (body : List Char) :
    Text.find? (· == quote) body = (closeQuote? quote body).map fun parts => bytes parts.1 := by
  induction body with
  | nil => rfl
  | cons char rest ih =>
      by_cases same : char = quote
      · simp [Text.find?, closeQuote?, same]
      · simp [Text.find?, closeQuote?, same, ih, Function.comp_def]

namespace Cursor

variable (cursor : Cursor) {start : Nat}

theorem wordStop_eq {rest : List Char} (restAt : RestAt cursor.source.toList start rest) :
    cursor.wordStop start = .ok (start + bytes (Text.word rest)) := by
  rw [wordStop, restAt.cutFrom_eq]
  exact congrArg Except.ok (restAt.find?_eq Text.isBlank)

theorem cutBetween_word {rest : List Char} (restAt : RestAt cursor.source.toList start rest) :
    Text.cutBetween cursor.source.toList start (start + bytes (Text.word rest)) =
      .ok (Text.word rest) := by
  rw [← Text.word_append_afterWord rest] at restAt
  exact restAt.cutBetween_eq

theorem readQuoted_eq {body : List Char}
    (restAt : RestAt cursor.source.toList start (cursor.quote :: body)) :
    cursor.readQuoted start =
      .ok ((CommandLine.readQuoted cursor.quote start body).map Prod.fst) := by
  have opened : RestAt cursor.source.toList (start + cursor.quote.utf8Size) body :=
    restAt.behind_cons
  rw [readQuoted, CommandLine.readQuoted]
  simp only [opened.cutFrom_eq, bind, Except.bind, find?_eq_closeQuote?]
  cases found : closeQuote? cursor.quote body with
  | none =>
      have stop : bytes cursor.source.toList = start + (cursor.quote.utf8Size + bytes body) := by
        rw [← restAt.offset_add, Text.bytes_cons]
      simp only [Option.map_none, stop, Span.ofRange_add]
      rfl
  | some parts =>
      obtain ⟨inside, after⟩ := parts
      obtain ⟨rfl, -⟩ := (closeQuote?_eq_some_iff ..).1 found
      have stop : start + cursor.quote.utf8Size + bytes inside + cursor.quote.utf8Size =
          start + (cursor.quote.utf8Size + bytes inside + cursor.quote.utf8Size) := by omega
      simp only [Option.map_some, opened.cutBetween_eq, stop, Span.ofRange_add]
      rfl

theorem readAttached_eq {rest : List Char} (missing : LexError)
    (restAt : RestAt cursor.source.toList start rest) :
    cursor.readAttached start missing =
      .ok ((CommandLine.readAttached cursor.quote start missing rest).map Prod.fst) := by
  have stop := cursor.wordStop_eq restAt
  have cut := cursor.cutBetween_word restAt
  have still : Text.word rest = [] → start + bytes (Text.word rest) = start := by
    intro none
    rw [none, Text.bytes_nil, Nat.add_zero]
  rw [readAttached]
  simp only [restAt.cutFrom_eq, stop, bind, Except.bind]
  cases rest with
  | nil =>
      rw [if_neg (by simp), if_pos (still rfl)]
      rfl
  | cons char rest =>
      rw [CommandLine.readAttached, List.head?_cons]
      by_cases quoted : char = cursor.quote
      · subst quoted
        rw [if_pos rfl, if_pos rfl]
        exact cursor.readQuoted_eq restAt
      rw [if_neg (by simpa using quoted), if_neg quoted]
      by_cases blank : Text.isBlank char = true
      · rw [if_pos blank, if_pos (still (by simp [Text.word, blank]))]
        rfl
      · have own := Text.word_cons (Bool.eq_false_iff.2 blank) rest
        have forward : start + bytes (char :: Text.word rest) ≠ start := by
          have positive := char.utf8Size_pos
          rw [Text.bytes_cons]
          omega
        rw [own] at cut ⊢
        rw [if_neg blank, if_neg forward, cut, Span.ofRange_add]
        rfl

theorem readBehindName_eq {behind : List Char} (token : Option Value → Token) (missing : LexError)
    (restAt : RestAt cursor.source.toList start behind) :
    cursor.readBehindName start token missing =
      .ok (Except.map Prod.fst (match behind with
        | '=' :: valueText =>
            match CommandLine.readAttached cursor.quote (start + 1) missing valueText with
            | .ok (value, after) => .ok (token (some value), after)
            | .error error => .error error
        | after => .ok (token none, after))) := by
  rw [readBehindName]
  simp only [restAt.cutFrom_eq, bind, Except.bind]
  by_cases equals : behind.head? = some '='
  · obtain ⟨valueText, rfl⟩ := List.head?_eq_some_iff.1 equals
    have valueAt : RestAt cursor.source.toList (start + 1) valueText := restAt.behind_cons
    rw [if_pos equals, cursor.readAttached_eq missing valueAt]
    dsimp only
    split
    · rename_i other same
      cases same
      cases CommandLine.readAttached .. <;> rfl
    · rename_i other
      exact absurd rfl (other valueText)
  · rw [if_neg equals]
    split
    · exact absurd rfl equals
    · rfl

/-- The dashes can be told from the word that they start. -/
theorem dashes_of_word (rest : List Char) :
    (if ['-', '-'].isPrefixOf ('-' :: Text.word rest) then Dashes.long else .short) =
      (readDashes rest).1 := by
  cases rest with
  | nil => rfl
  | cons char rest =>
      by_cases dash : char = '-'
      · subst dash
        rfl
      · have single : (readDashes (char :: rest)).1 = .short := by simp [readDashes, dash]
        rw [single]
        by_cases blank : Text.isBlank char = true <;>
          simp [Text.word, blank, Ne.symm dash]

theorem readOption_eq {rest : List Char}
    (restAt : RestAt cursor.source.toList start ('-' :: rest)) :
    cursor.readOption start =
      .ok ((CommandLine.readOption cursor.quote start rest).map Prod.fst) := by
  have own := Text.word_cons (show Text.isBlank '-' = false by decide) rest
  have stop := cursor.wordStop_eq restAt
  have cut := cursor.cutBetween_word restAt
  rw [own] at stop cut
  have dashed := readDashes_spelled rest
  have told := dashes_of_word rest
  rw [readOption, CommandLine.readOption]
  generalize readDashes rest = split at dashed told ⊢
  obtain ⟨dashes, body⟩ := split
  dsimp only at dashed told ⊢
  rw [dashed] at restAt
  have named := restAt.behind
  rw [← Dashes.size_eq_bytes] at named
  have most : Word.sub (bytes cursor.source.toList) (start + dashes.size) = .ok (bytes body) := by
    rw [← named.offset_add, Word.sub, if_pos (Nat.le_add_right ..), Nat.add_sub_cancel_left]
  have length := Text.getD_find? (fun char => !inOptionName char) body
  simp only [Bool.not_not] at length
  simp only [stop, cut, told, named.cutFrom_eq, most, length, bind, Except.bind]
  have spelled : body.takeWhile inOptionName ++ body.dropWhile inOptionName = body :=
    List.takeWhile_append_dropWhile
  rw [← spelled] at named
  generalize body.takeWhile inOptionName = name at named ⊢
  generalize body.dropWhile inOptionName = behind at named ⊢
  by_cases empty : name = []
  · subst empty
    rfl
  have sized : bytes name ≠ 0 := fun zero => empty ((Text.bytes_eq_zero_iff name).1 zero)
  have unempty : ¬name.isEmpty = true := by simpa using empty
  rw [if_neg sized, if_neg unempty]
  have behindName := named.behind
  rw [Nat.add_assoc] at behindName
  simp only [named.cutBetween_eq]
  rw [Nat.add_assoc, Span.ofRange_add]
  exact cursor.readBehindName_eq _ _ behindName

theorem readToken_eq {char : Char} {rest : List Char}
    (restAt : RestAt cursor.source.toList cursor.position (char :: rest))
    (unblank : Text.isBlank char = false) :
    cursor.readToken = .ok ((CommandLine.readToken cursor.quote (!cursor.started)
      cursor.position char rest).map Prod.fst) := by
  have own := Text.word_cons unblank rest
  have stop := cursor.wordStop_eq restAt
  have cut := cursor.cutBetween_word restAt
  rw [own] at stop cut
  rw [readToken, Cursor.rest, CommandLine.readToken]
  simp only [restAt.cutFrom_eq, bind, Except.bind, List.head?_cons, Option.some.injEq]
  by_cases quoted : char = cursor.quote
  · subst quoted
    rw [if_pos rfl, if_pos rfl, cursor.readQuoted_eq restAt]
    cases CommandLine.readQuoted .. <;> cases cursor.started <;> rfl
  rw [if_neg quoted, if_neg quoted]
  by_cases dash : cursor.started = true ∧ char = '-'
  · obtain ⟨started, rfl⟩ := dash
    rw [started, if_pos (by simp), if_pos (by simp)]
    exact cursor.readOption_eq restAt
  · rw [if_neg dash, if_neg (by simpa [and_comm] using dash)]
    simp only [stop, cut, Span.ofRange_add]
    cases cursor.started <;> rfl

end Cursor

/-! ## Steps -/

namespace Scanner

variable {scanner after : Scanner} {item : Option (Except LexError Token)}

/-- A scanner stands in its source if this holds, behind the offset, what is left. -/
def Stands (scanner : Scanner) : Prop :=
  RestAt scanner.source.toList scanner.position scanner.rest

theorem stands_ofSource (quote : Char) (source : String) : (ofSource quote source).Stands :=
  .start source.toList

theorem Stands.behindBlanks (stands : scanner.Stands) :
    RestAt scanner.source.toList scanner.behindBlanks (Text.skipBlanks scanner.rest) := by
  apply RestAt.behind
  rw [Text.leadingBlanks_append_skipBlanks]
  exact stands

theorem Step.stands (step : scanner.Step item after) (stands : scanner.Stands) : after.Stands := by
  have skip := stands.behindBlanks
  cases step with
  | done finished => exact stands
  | ended unfinished blank => rwa [blank] at skip
  | token unfinished skipped read =>
      have off := (readToken_readOff (isBlank_eq_false_of_skipBlanks skipped) read).1
      rw [skipped, off.spelled] at skip
      rw [Stands, off.stop_eq]
      exact skip.behind
  | failed unfinished skipped read => rwa [skipped] at skip

def cursor (scanner : Scanner) : Cursor :=
  ⟨scanner.source, scanner.quote, scanner.position, scanner.started, scanner.finished⟩

theorem Stands.cursor_skipBlanks (stands : scanner.Stands) :
    scanner.cursor.skipBlanks = .ok ⟨scanner.source, scanner.quote, scanner.behindBlanks,
      scanner.started, scanner.finished⟩ := by
  have whole := congrArg bytes (Text.leadingBlanks_append_skipBlanks scanner.rest)
  rw [Text.bytes_append] at whole
  have skipped : Word.sub (bytes scanner.rest) (bytes (Text.skipBlanks scanner.rest)) =
      .ok (bytes (Text.leadingBlanks scanner.rest)) := by
    rw [Word.sub, if_pos (by omega), ← whole, Nat.add_sub_cancel]
  have left : scanner.cursor.rest = .ok scanner.rest := RestAt.cutFrom_eq stands
  simp only [Cursor.skipBlanks, left, skipped, bind, Except.bind]
  rfl

/-- At a character that is no blank, a machine goes on as its reader says. -/
theorem Stands.cursor_next_of_cons (stands : scanner.Stands)
    (unfinished : scanner.finished = false) {char : Char} {rest : List Char}
    (skipped : Text.skipBlanks scanner.rest = char :: rest) :
    scanner.cursor.next =
      match readToken scanner.quote (!scanner.started) scanner.behindBlanks char rest with
      | .ok (token, _) => .ok (some (.ok token),
          ⟨scanner.source, scanner.quote, token.span.stop, true, false⟩)
      | .error error => .ok (some (.error error),
          ⟨scanner.source, scanner.quote, scanner.behindBlanks, true, true⟩) := by
  have skip := stands.behindBlanks
  have size := skip.offset_add
  rw [skipped] at skip
  rw [skipped, Text.bytes_cons] at size
  have positive := char.utf8Size_pos
  have going : ¬scanner.cursor.finished = true := by simpa [cursor] using unfinished
  have inside : ¬bytes scanner.source.toList ≤ scanner.behindBlanks := by omega
  have told := Cursor.readToken_eq
    ⟨scanner.source, scanner.quote, scanner.behindBlanks, scanner.started, scanner.finished⟩
    skip (isBlank_eq_false_of_skipBlanks skipped)
  rw [Cursor.next, if_neg going]
  simp only [stands.cursor_skipBlanks, told, bind, Except.bind]
  rw [if_neg inside, unfinished]
  cases readToken scanner.quote (!scanner.started) scanner.behindBlanks char rest <;> rfl

/-- A machine never ends in a trap where the scanner stands in its source, and answers what the
scanner does. -/
theorem Step.cursor_next (step : scanner.Step item after) (stands : scanner.Stands) :
    scanner.cursor.next = .ok (item, after.cursor) := by
  cases step with
  | done finished =>
      have still : scanner.cursor.finished = true := finished
      rw [Cursor.next, if_pos still]
      rfl
  | ended unfinished blank =>
      have size := stands.behindBlanks.offset_add
      rw [blank, Text.bytes_nil, Nat.add_zero] at size
      have going : ¬scanner.cursor.finished = true := by simpa [cursor] using unfinished
      rw [Cursor.next, if_neg going]
      simp only [stands.cursor_skipBlanks, bind, Except.bind]
      rw [if_pos (Nat.le_of_eq size.symm)]
      rfl
  | token unfinished skipped read =>
      rw [stands.cursor_next_of_cons unfinished skipped, read]
      simp only [cursor, unfinished]
  | failed unfinished skipped read =>
      rw [stands.cursor_next_of_cons unfinished skipped, read]
      rfl

end Scanner

end CommandLine
