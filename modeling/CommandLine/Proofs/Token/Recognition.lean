import CommandLine.Proofs.Token.Reading

/-!
# Spellings are read back

A reader that is given a spelling, and behind it something that cannot belong to
it, reads the token that is spelled.  Together with the lemmas on what readers
read this settles when a token is read: `readToken_eq_ok_iff`.

Some tokens cannot start anywhere.  Blanks are skipped before a token is read, and
a quote is looked for before a dash, so a quotation cannot start if the quote is a
blank, and an option cannot start if the quote is a dash.
-/

set_option autoImplicit false

namespace CommandLine

open Text (bytes AtBreak)

/-- Whether a token of a kind can be met where blanks were skipped. -/
def Token.Kind.CanStart (quote : Char) : Token.Kind → Prop
  | .program literal => literal.quoted = true → Text.isBlank quote = false
  | .command _ => True
  | .option _ => quote ≠ '-'
  | .value _ => Text.isBlank quote = false

instance (quote : Char) : (kind : Token.Kind) → Decidable (kind.CanStart quote)
  | .program literal =>
      inferInstanceAs (Decidable (literal.quoted = true → Text.isBlank quote = false))
  | .command _ => inferInstanceAs (Decidable True)
  | .option _ => inferInstanceAs (Decidable (quote ≠ '-'))
  | .value _ => inferInstanceAs (Decidable (Text.isBlank quote = false))

/-! ## Words and quotations -/

namespace Text

theorem AtBreak.word_eq_nil {text : List Char} (ended : AtBreak text) : word text = [] := by
  cases text with
  | nil => rfl
  | cons char rest =>
      have blank := ended char rfl
      simp [word, blank]

theorem word_append {text after : List Char} (unblank : ∀ char ∈ text, isBlank char = false)
    (ended : AtBreak after) : word (text ++ after) = text := by
  have inside : ∀ char ∈ text, (!isBlank char) = true := by simpa using unblank
  have none := ended.word_eq_nil
  rw [word] at none
  rw [word, List.takeWhile_append_of_pos inside, none, List.append_nil]

theorem afterWord_append {text after : List Char}
    (unblank : ∀ char ∈ text, isBlank char = false) (ended : AtBreak after) :
    afterWord (text ++ after) = after := by
  have whole := word_append_afterWord (text ++ after)
  rw [word_append unblank ended] at whole
  exact List.append_cancel_left whole

end Text

theorem readQuoted_eq_ok {quote : Char} {start : Nat} {body after : List Char} {value : Value}
    (off : value.ReadOff quote start (quote :: body) after) (quoted : value.literal.quoted = true) :
    readQuoted quote start body = .ok (value, after) := by
  rcases value with ⟨⟨text, flag⟩, span⟩
  obtain rfl : flag = true := quoted
  have spelled : body = text.toList ++ quote :: after := by
    simpa [Literal.spelling] using off.spelled
  have free : quote ∉ text.toList := by simpa [Literal.Readable] using off.readable
  have place : span = ⟨start, quote.utf8Size + bytes text.toList + quote.utf8Size⟩ := by
    simpa [Literal.spelling, Nat.add_assoc] using off.span
  have found := (closeQuote?_eq_some_iff quote body text.toList after).2 ⟨spelled, free⟩
  simp [readQuoted, found, place]

/-- A bare word, taken apart. -/
theorem Bare.exists_cons {quote : Char} {text : String} (bare : Bare quote text) :
    ∃ char rest, text.toList = char :: rest ∧ char ≠ quote ∧ Text.isBlank char = false ∧
      ∀ other ∈ rest, Text.isBlank other = false := by
  obtain ⟨char, rest, same⟩ := List.exists_cons_of_ne_nil bare.nonempty
  have unblank := bare.unblank
  have unquoted := bare.unquoted
  rw [same] at unblank unquoted
  refine ⟨char, rest, same, by simpa using unquoted, unblank char (by simp), ?_⟩
  intro other member
  exact unblank other (by simp [member])

theorem readAttached_eq_ok {quote : Char} {start : Nat} {text after : List Char} {value : Value}
    (missing : LexError) (off : value.ReadOff quote start text after) :
    readAttached quote start missing text = .ok (value, after) := by
  by_cases quoted : value.literal.quoted = true
  · obtain ⟨body, same⟩ : ∃ body, text = quote :: body := by
      refine ⟨value.literal.text.toList ++ quote :: after, ?_⟩
      simpa [Literal.spelling, quoted] using off.spelled
    subst same
    rw [readAttached, if_pos rfl]
    exact readQuoted_eq_ok off quoted
  · rcases value with ⟨⟨name, flag⟩, span⟩
    obtain rfl : flag = false := by simpa using quoted
    have bare : Bare quote name := by simpa [Literal.Readable] using off.readable
    have place : span = ⟨start, bytes name.toList⟩ := by
      simpa [Literal.spelling] using off.span
    have spelled : text = name.toList ++ after := by
      simpa [Literal.spelling] using off.spelled
    obtain ⟨char, rest, same, unquoted, unblank, inside⟩ := bare.exists_cons
    have ended := off.delimited rfl
    rw [spelled, same, List.cons_append, readAttached, if_neg unquoted, if_neg (by simp [unblank]),
      Text.word_append inside ended, Text.afterWord_append inside ended, ← same, place]
    simp

/-! ## Options -/

theorem OptionUse.Named.readDashes {dashes : Dashes} {name : String} {rest after : List Char}
    (named : OptionUse.Named dashes name)
    (spelled : '-' :: rest = dashes.text.toList ++ name.toList ++ after) :
    CommandLine.readDashes rest = (dashes, name.toList ++ after) := by
  cases dashes with
  | long =>
      obtain rfl : rest = '-' :: (name.toList ++ after) := (List.cons.inj spelled).2
      rfl
  | short =>
      obtain rfl : rest = name.toList ++ after := (List.cons.inj spelled).2
      obtain ⟨char, others, same⟩ := List.exists_cons_of_ne_nil named.nonempty
      have undashed : char ≠ '-' := by simpa [same] using named.undashed rfl
      rw [same, List.cons_append, CommandLine.readDashes]
      intro other equal
      exact undashed (List.cons.inj equal).1

/-- A name ends where something stands that cannot belong to it. -/
theorem OptionUse.Named.takeWhile_append {dashes : Dashes} {name : String}
    (named : OptionUse.Named dashes name) (after : List Char)
    (ended : ∀ char ∈ after.head?, inOptionName char = false) :
    (name.toList ++ after).takeWhile inOptionName = name.toList ∧
      (name.toList ++ after).dropWhile inOptionName = after := by
  have none : after.takeWhile inOptionName = [] := by
    cases after with
    | nil => rfl
    | cons char rest => simp [ended char rfl]
  have all : after.dropWhile inOptionName = after := by
    have whole := List.takeWhile_append_dropWhile (p := inOptionName) (l := after)
    rwa [none, List.nil_append] at whole
  rw [List.takeWhile_append_of_pos named.inName, List.dropWhile_append_of_pos named.inName,
    none, all, List.append_nil]
  exact ⟨rfl, rfl⟩

theorem inOptionName_eq_false_of_atBreak {after : List Char} (ended : AtBreak after) :
    ∀ char ∈ after.head?, inOptionName char = false := by
  intro char first
  simp [inOptionName, ended char first]

section Options

variable {quote : Char} {dashes : Dashes} {name : String} {rest after : List Char}

theorem readOption_eq_ok_of_bare (named : OptionUse.Named dashes name) (ended : AtBreak after)
    (spelled : '-' :: rest = dashes.text.toList ++ name.toList ++ after) (start : Nat) :
    let given : OptionUse :=
      ⟨name, ⟨start, dashes.size + bytes name.toList⟩, dashes, none⟩
    readOption quote start rest = .ok (⟨.option given, given.span⟩, after) := by
  have split := named.readDashes spelled
  obtain ⟨front, back⟩ := named.takeWhile_append after (inOptionName_eq_false_of_atBreak ended)
  have nonempty : name.toList.isEmpty = false := by simpa using named.nonempty
  have valueless : ∀ value, after ≠ '=' :: value := by
    rintro value rfl
    have blank := ended '=' rfl
    cases blank
  unfold readOption
  simp only [split, front, back, nonempty, Bool.false_eq_true, if_false, String.ofList_toList]

theorem readOption_eq_ok_of_value {text : List Char} {value : Value} {start : Nat}
    (named : OptionUse.Named dashes name)
    (off : value.ReadOff quote (start + (dashes.size + bytes name.toList) + 1) text after)
    (spelled : '-' :: rest = dashes.text.toList ++ name.toList ++ '=' :: text) :
    let given : OptionUse :=
      ⟨name, ⟨start, dashes.size + bytes name.toList⟩, dashes, some value⟩
    readOption quote start rest = .ok (⟨.option given, given.span⟩, after) := by
  have split := named.readDashes spelled
  obtain ⟨front, back⟩ := named.takeWhile_append ('=' :: text) (by simp [inOptionName])
  have nonempty : name.toList.isEmpty = false := by simpa using named.nonempty
  have attached := readAttached_eq_ok (.malformedOption (String.ofList ('-' :: Text.word rest))
    LexError.missingValue ⟨start, bytes ('-' :: Text.word rest)⟩) off
  unfold readOption
  simp only [split, front, back, nonempty, Bool.false_eq_true, if_false, String.ofList_toList,
    Span.stop, attached]

theorem readOption_eq_ok {option : OptionUse} {span : Span} {start : Nat}
    (off : Token.ReadOff quote start ('-' :: rest) ⟨.option option, span⟩ after) :
    readOption quote start rest = .ok (⟨.option option, span⟩, after) := by
  have placed := off.parts option rfl
  obtain rfl : span = option.span := by
    rw [placed.span_eq]
    exact off.span
  have readable : option.Readable quote := off.readable
  have spelled : '-' :: rest = option.spelling quote ++ after := off.spelled
  have nameSpan : option.nameSpan = ⟨start, option.dashes.size + bytes option.name.toList⟩ := by
    rw [placed.name, Dashes.size_eq_bytes, OptionUse.head, Text.bytes_append]
  rcases option with ⟨name, span, dashes, value?⟩
  obtain rfl : span = ⟨start, dashes.size + bytes name.toList⟩ := nameSpan
  cases value? with
  | none => exact readOption_eq_ok_of_bare readable.named (off.delimited rfl) spelled start
  | some value =>
      have valueOff : value.ReadOff quote (start + (dashes.size + bytes name.toList) + 1)
          (value.literal.spelling quote ++ after) after :=
        ⟨rfl, placed.value value rfl, readable.value value rfl, off.delimited⟩
      refine readOption_eq_ok_of_value readable.named valueOff ?_
      rw [spelled]
      simp [OptionUse.spelling, OptionUse.head]

end Options

theorem OptionUse.head?_spelling (quote : Char) (option : OptionUse) :
    (option.spelling quote).head? = some '-' := by
  have dashed : option.head.head? = some '-' := by
    rw [OptionUse.head]
    cases option.dashes <;> simp [Dashes.text]
  unfold OptionUse.spelling
  split
  · exact dashed
  · rw [List.head?_append, dashed]
    rfl

/-! ## Tokens -/

theorem readToken_eq_ok_of_quoted {quote : Char} {start : Nat} {rest after : List Char}
    {value : Value} (first : Bool) (off : value.ReadOff quote start (quote :: rest) after)
    (quoted : value.literal.quoted = true) :
    readToken quote first start quote rest =
      .ok (⟨if first then .program value.literal else .value value.literal, value.span⟩,
        after) := by
  rw [readToken, if_pos rfl, readQuoted_eq_ok off quoted]

theorem readToken_eq_ok_of_bare {quote char : Char} {start : Nat} {rest after : List Char}
    {name : String} {first : Bool} (bare : Bare quote name)
    (undashed : first = false → name.toList.head? ≠ some '-')
    (spelled : char :: rest = name.toList ++ after) (ended : AtBreak after) :
    readToken quote first start char rest =
      .ok (⟨if first then .program ⟨name, false⟩ else .command name,
        ⟨start, bytes name.toList⟩⟩, after) := by
  obtain ⟨char', rest', same, unquoted, -, inside⟩ := bare.exists_cons
  rw [same, List.cons_append] at spelled
  obtain ⟨rfl, rfl⟩ := List.cons.inj spelled
  have noOption : ¬ (char = '-' && !first) = true := by
    intro dash
    obtain ⟨rfl, later⟩ : char = '-' ∧ first = false := by simpa using dash
    exact undashed later (by rw [same]; rfl)
  rw [readToken, if_neg unquoted, if_neg noOption, Text.word_append inside ended,
    Text.afterWord_append inside ended, ← same]
  simp

theorem readToken_eq_ok {quote char : Char} {start : Nat} {rest after : List Char} {token : Token}
    (off : token.ReadOff quote start (char :: rest) after) (starts : token.kind.CanStart quote) :
    readToken quote token.kind.isProgram start char rest = .ok (token, after) := by
  rcases token with ⟨kind, span⟩
  have spelled : char :: rest = kind.spelling quote ++ after := off.spelled
  have place : span = ⟨start, bytes (kind.spelling quote)⟩ := off.span
  have readable : kind.Readable quote := off.readable
  have delimited := off.delimited
  have quotation (literal : Literal) (quoted : literal.quoted = true)
      (written : char :: rest = literal.spelling quote ++ after) : char = quote := by
    rw [Literal.spelling, if_pos quoted] at written
    exact (List.cons.inj written).1
  cases kind with
  | program literal =>
      rcases literal with ⟨text, quoted⟩
      cases quoted with
      | true =>
          obtain rfl := quotation _ rfl spelled
          have value : Value.ReadOff char start (char :: rest) ⟨⟨text, true⟩, span⟩ after :=
            ⟨spelled, place, readable, delimited⟩
          exact readToken_eq_ok_of_quoted true value rfl
      | false =>
          rw [place]
          exact readToken_eq_ok_of_bare readable (by simp [Token.Kind.isProgram]) spelled
            (delimited rfl)
  | command name =>
      rw [place]
      exact readToken_eq_ok_of_bare readable.1 (fun _ => readable.2) spelled (delimited rfl)
  | option given =>
      obtain rfl : char = '-' := by
        have dashed := given.head?_spelling quote
        obtain ⟨tail, written⟩ := List.head?_eq_some_iff.1 dashed
        have first : char :: rest = given.spelling quote ++ after := spelled
        rw [written] at first
        exact (List.cons.inj first).1
      have unquoted : '-' ≠ quote := Ne.symm starts
      rw [readToken, if_neg unquoted, if_pos (by rfl)]
      exact readOption_eq_ok off
  | value literal =>
      obtain rfl := quotation _ readable.2 spelled
      have value : Value.ReadOff char start (char :: rest) ⟨literal, span⟩ after :=
        ⟨spelled, place, readable.1, delimited⟩
      exact readToken_eq_ok_of_quoted false value readable.2

theorem Token.Kind.canStart_of_readToken {quote char : Char} {first : Bool} {start : Nat}
    {rest after : List Char} {token : Token} (unblank : Text.isBlank char = false)
    (read : readToken quote first start char rest = .ok (token, after)) :
    token.kind.CanStart quote := by
  have off := (readToken_readOff unblank read).1
  by_cases quoted : char = quote
  · subst quoted
    rw [readToken, if_pos rfl] at read
    split at read
    · cases read
      cases first
      · exact unblank
      · exact fun _ => unblank
    · cases read
  · rcases token with ⟨kind, span⟩
    have spelled : char :: rest = kind.spelling quote ++ after := off.spelled
    cases kind with
    | program literal =>
        intro opens
        rw [Token.Kind.spelling, Literal.spelling, if_pos opens] at spelled
        exact absurd (List.cons.inj spelled).1 quoted
    | command name => trivial
    | option given =>
        rintro rfl
        obtain ⟨tail, written⟩ := List.head?_eq_some_iff.1 (given.head?_spelling '-')
        rw [Token.Kind.spelling, written] at spelled
        exact quoted (List.cons.inj spelled).1
    | value literal =>
        rw [Token.Kind.spelling, Literal.spelling, if_pos off.readable.2] at spelled
        exact absurd (List.cons.inj spelled).1 quoted

/-- A token is read off a text just when it stands there and can be told there. -/
theorem readToken_eq_ok_iff {quote char : Char} {first : Bool} {start : Nat}
    {rest after : List Char} {token : Token} (unblank : Text.isBlank char = false) :
    readToken quote first start char rest = .ok (token, after) ↔
      token.ReadOff quote start (char :: rest) after ∧ token.kind.isProgram = first ∧
        token.kind.CanStart quote := by
  constructor
  · intro read
    obtain ⟨off, sort⟩ := readToken_readOff unblank read
    exact ⟨off, sort, Token.Kind.canStart_of_readToken unblank read⟩
  · rintro ⟨off, rfl, starts⟩
    exact readToken_eq_ok off starts

end CommandLine
