import CommandLine.Text.Blank
import CommandLine.Token.Error
import CommandLine.Token

/-!
# Reading one token

The first token of a source is its program name.  After it, a word that starts
with the quote is a quoted value, a word that starts with a dash is an option,
and any other word is a command.  The name of an option ends at an equals sign,
and the value behind the sign may be quoted as well.

Each reader is given the offset at which it starts and returns what it read
with the text behind it, which is never longer than what it was given.
-/

set_option autoImplicit false

namespace CommandLine

def inOptionName (char : Char) : Bool :=
  char != '=' && !Text.isBlank char

def closeQuote? (quote : Char) : List Char → Option (List Char × List Char)
  | [] => none
  | char :: rest =>
      if char = quote then some ([], rest)
      else (closeQuote? quote rest).map fun (inside, after) => (char :: inside, after)

theorem closeQuote?_eq_some_iff (quote : Char) (text inside after : List Char) :
    closeQuote? quote text = some (inside, after) ↔
      text = inside ++ quote :: after ∧ quote ∉ inside := by
  induction text generalizing inside with
  | nil => simp [closeQuote?]
  | cons char rest ih =>
      by_cases same : char = quote
      · subst same
        cases inside with
        | nil => simp [closeQuote?, eq_comm]
        | cons first inside => simp +contextual [closeQuote?]
      · cases inside with
        | nil => simp [closeQuote?, same]
        | cons first inside =>
            simp only [closeQuote?, if_neg same, Option.map_eq_some_iff, Prod.exists,
              Prod.mk.injEq, List.cons.injEq, List.cons_append, List.mem_cons, not_or]
            constructor
            · rintro ⟨inside', after', found, ⟨rfl, rfl⟩, rfl⟩
              obtain ⟨rfl, free⟩ := (ih inside').1 found
              exact ⟨⟨rfl, rfl⟩, fun equal => same equal.symm, free⟩
            · rintro ⟨⟨rfl, rfl⟩, -, free⟩
              exact ⟨inside, after, (ih inside).2 ⟨rfl, free⟩, ⟨rfl, rfl⟩, rfl⟩

theorem closeQuote?_eq_none_iff (quote : Char) (text : List Char) :
    closeQuote? quote text = none ↔ quote ∉ text := by
  induction text with
  | nil => simp [closeQuote?]
  | cons char rest ih =>
      by_cases same : char = quote
      · simp [closeQuote?, same]
      · simp [closeQuote?, same, ih, Ne.symm same]

/-- A quoted literal whose opening quote is at `start` and is followed by
`body`, and the text after its closing quote. -/
def readQuoted (quote : Char) (start : Nat) (body : List Char) :
    Except LexError (Value × List Char) :=
  match closeQuote? quote body with
  | some (inside, after) =>
      .ok (⟨⟨String.ofList inside, true⟩,
        ⟨start, quote.utf8Size + Text.bytes inside + quote.utf8Size⟩⟩, after)
  | none => .error (.unterminatedQuote quote ⟨start, quote.utf8Size + Text.bytes body⟩)

/-- The value that starts at `start`, just after an equals sign, and the text
after it; `missing` is the error if there is none. -/
def readAttached (quote : Char) (start : Nat) (missing : LexError) :
    List Char → Except LexError (Value × List Char)
  | [] => .error missing
  | char :: rest =>
      if char = quote then
        readQuoted quote start rest
      else if Text.isBlank char then
        .error missing
      else
        let text := char :: Text.word rest
        .ok (⟨⟨String.ofList text, false⟩, ⟨start, Text.bytes text⟩⟩, Text.afterWord rest)

def readDashes : List Char → Dashes × List Char
  | '-' :: rest => (.long, rest)
  | rest => (.short, rest)

def readOption (quote : Char) (start : Nat) (rest : List Char) :
    Except LexError (Token × List Char) :=
  let word := '-' :: Text.word rest
  let malformed (reason : String) : LexError :=
    .malformedOption (String.ofList word) reason ⟨start, Text.bytes word⟩
  let (dashes, body) := readDashes rest
  let name := body.takeWhile inOptionName
  let nameSpan : Span := ⟨start, dashes.size + Text.bytes name⟩
  let token (value? : Option Value) : Token :=
    let option : OptionUse := ⟨String.ofList name, nameSpan, dashes, value?⟩
    ⟨.option option, option.span⟩
  if name.isEmpty then
    .error (malformed LexError.missingName)
  else
    match body.dropWhile inOptionName with
    | '=' :: valueText =>
        match readAttached quote (nameSpan.stop + 1) (malformed LexError.missingValue)
            valueText with
        | .ok (value, after) => .ok (token (some value), after)
        | .error error => .error error
    | after => .ok (token none, after)

/-- The token that starts at `start` with `char` and goes on in `rest`, and the
text after it.  The first token of a source is its program name. -/
def readToken (quote : Char) (first : Bool) (start : Nat) (char : Char) (rest : List Char) :
    Except LexError (Token × List Char) :=
  if char = quote then
    match readQuoted quote start rest with
    | .ok (value, after) =>
        let kind : Token.Kind := if first then .program value.literal else .value value.literal
        .ok (⟨kind, value.span⟩, after)
    | .error error => .error error
  else if char = '-' && !first then
    readOption quote start rest
  else
    let text := char :: Text.word rest
    let name := String.ofList text
    let kind : Token.Kind := if first then .program ⟨name, false⟩ else .command name
    .ok (⟨kind, ⟨start, Text.bytes text⟩⟩, Text.afterWord rest)

/-! ## The rest is shorter -/

theorem readQuoted_length_lt {quote : Char} {start : Nat} {body after : List Char} {value : Value}
    (read : readQuoted quote start body = .ok (value, after)) :
    after.length < body.length := by
  unfold readQuoted at read
  split at read
  · rename_i inside rest found
    obtain ⟨rfl, -⟩ := (closeQuote?_eq_some_iff ..).1 found
    cases read
    simp
    omega
  · cases read

theorem length_afterWord_le (text : List Char) : (Text.afterWord text).length ≤ text.length :=
  (List.dropWhile_suffix _).length_le

theorem readAttached_length_lt {quote : Char} {start : Nat} {missing : LexError}
    {text after : List Char} {value : Value}
    (read : readAttached quote start missing text = .ok (value, after)) :
    after.length < text.length := by
  cases text with
  | nil => cases read
  | cons char rest =>
      simp only [readAttached] at read
      split at read
      · have shorter := readQuoted_length_lt read
        simp
        omega
      · split at read
        · cases read
        · cases read
          have shorter := length_afterWord_le rest
          simp
          omega

theorem length_readDashes_le (rest : List Char) : (readDashes rest).2.length ≤ rest.length := by
  unfold readDashes
  split <;> simp

theorem readOption_length_le {quote : Char} {start : Nat} {rest after : List Char} {token : Token}
    (read : readOption quote start rest = .ok (token, after)) :
    after.length ≤ rest.length := by
  have dashes := length_readDashes_le rest
  have shorter : ((readDashes rest).2.dropWhile inOptionName).length
      ≤ (readDashes rest).2.length := (List.dropWhile_suffix _).length_le
  simp only [readOption] at read
  split at read
  · cases read
  · split at read
    · rename_i valueText tail
      rw [tail, List.length_cons] at shorter
      split at read
      · rename_i value remaining readValue
        have attached := readAttached_length_lt readValue
        cases read
        omega
      · cases read
    · cases read
      omega

theorem readToken_length_le {quote : Char} {first : Bool} {start : Nat} {char : Char}
    {rest after : List Char} {token : Token}
    (read : readToken quote first start char rest = .ok (token, after)) :
    after.length ≤ rest.length := by
  unfold readToken at read
  split at read
  · split at read
    · rename_i value remaining readValue
      have shorter := readQuoted_length_lt readValue
      cases read
      omega
    · cases read
  · split at read
    · exact readOption_length_le read
    · cases read
      exact length_afterWord_le rest

end CommandLine
