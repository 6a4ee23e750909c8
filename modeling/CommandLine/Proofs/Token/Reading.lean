import CommandLine.Proofs.Token.Spelling

/-!
# Readers read spellings

A reader that succeeds has read one token off the front of its text:
`readToken_readOff`.  Nothing between the two ends of the token is lost, and the
spans that the reader computes are those of the parts that it read.
-/

set_option autoImplicit false

namespace CommandLine

open Text (bytes AtBreak)

/-! ## Words and quotations -/

namespace Text

theorem atBreak_afterWord (text : List Char) : AtBreak (afterWord text) := by
  intro char first
  have stopped := List.head?_dropWhile_not (fun char => !isBlank char) text
  rw [afterWord] at first
  simpa [Option.mem_def.1 first] using stopped

end Text

theorem readQuoted_readOff {quote : Char} {start : Nat} {body after : List Char} {value : Value}
    (read : readQuoted quote start body = .ok (value, after)) :
    value.ReadOff quote start (quote :: body) after ∧ value.literal.quoted = true := by
  unfold readQuoted at read
  split at read
  · rename_i inside rest found
    obtain ⟨rfl, free⟩ := (closeQuote?_eq_some_iff ..).1 found
    cases read
    refine ⟨⟨?_, ?_, ?_, ?_⟩, rfl⟩
    · simp [Literal.spelling]
    · simp [Literal.spelling, Nat.add_assoc]
    · simpa [Literal.Readable] using free
    · intro bare
      cases bare
  · cases read

theorem bare_word {quote char : Char} (rest : List Char) (unblank : Text.isBlank char = false)
    (unquoted : char ≠ quote) : Bare quote (String.ofList (char :: Text.word rest)) := by
  refine ⟨by simp, ?_, by simpa using unquoted⟩
  intro other member
  rw [String.toList_ofList, List.mem_cons] at member
  rcases member with rfl | inside
  · exact unblank
  · exact Text.isBlank_eq_false_of_mem_word inside

theorem readAttached_readOff {quote : Char} {start : Nat} {missing : LexError}
    {text after : List Char} {value : Value}
    (read : readAttached quote start missing text = .ok (value, after)) :
    value.ReadOff quote start text after := by
  cases text with
  | nil => cases read
  | cons char rest =>
      rw [readAttached] at read
      by_cases quoted : char = quote
      · rw [if_pos quoted] at read
        subst quoted
        exact (readQuoted_readOff read).1
      · rw [if_neg quoted] at read
        by_cases blank : Text.isBlank char = true
        · rw [if_pos blank] at read
          cases read
        · rw [if_neg blank] at read
          cases read
          have unblank : Text.isBlank char = false := by simpa using blank
          refine ⟨?_, ?_, ?_, fun _ => Text.atBreak_afterWord rest⟩
          · simp [Literal.spelling]
          · simp [Literal.spelling]
          · simpa [Literal.Readable] using bare_word rest unblank quoted

/-! ## Options -/

theorem readDashes_spelled (rest : List Char) :
    '-' :: rest = (readDashes rest).1.text.toList ++ (readDashes rest).2 := by
  unfold readDashes
  split <;> simp [Dashes.text]

theorem readDashes_named (rest : List Char)
    (nonempty : (readDashes rest).2.takeWhile inOptionName ≠ []) :
    OptionUse.Named (readDashes rest).1
      (String.ofList ((readDashes rest).2.takeWhile inOptionName)) := by
  refine ⟨by simpa using nonempty, ?_, ?_⟩
  · rw [String.toList_ofList]
    exact List.all_eq_true.1 List.all_takeWhile
  · rw [String.toList_ofList]
    intro short dash
    unfold readDashes at short dash
    split at short
    · cases short
    · rename_i single
      cases rest with
      | nil => cases dash
      | cons char tail =>
          have another : char ≠ '-' := by
            rintro rfl
            exact single tail rfl
          by_cases inside : inOptionName char = true
          · simp [inside, another] at dash
          · simp [inside] at dash

theorem Dashes.size_eq_bytes (dashes : Dashes) : dashes.size = bytes dashes.text.toList := by
  cases dashes <;> rfl

/-- What a name leaves behind starts with an equals sign, or with nothing that
could go on. -/
theorem atBreak_of_not_equals {body : List Char}
    (other : ∀ value, body.dropWhile inOptionName ≠ '=' :: value) :
    AtBreak (body.dropWhile inOptionName) := by
  intro char first
  obtain ⟨tail, same⟩ := List.head?_eq_some_iff.1 (Option.mem_def.1 first)
  have stopped := List.head?_dropWhile_not inOptionName body
  rw [same] at stopped
  have unequal : char ≠ '=' := by
    intro equals
    exact other tail (equals ▸ same)
  simpa [inOptionName, unequal] using stopped

theorem Token.readOff_option {quote : Char} {start : Nat} {text after : List Char}
    {option : OptionUse} (spelled : text = option.spelling quote ++ after)
    (placed : option.PlacedAt quote start) (readable : option.Readable quote)
    (delimited : (Token.Kind.option option).endsQuoted = false → AtBreak after) :
    Token.ReadOff quote start text ⟨.option option, option.span⟩ after := by
  refine ⟨spelled, placed.span_eq, ?_, readable, delimited⟩
  intro given same
  cases same
  exact placed

theorem readOption_readOff {quote : Char} {start : Nat} {rest after : List Char} {token : Token}
    (read : readOption quote start rest = .ok (token, after)) :
    token.ReadOff quote start ('-' :: rest) after ∧ token.kind.isProgram = false := by
  have dashed := readDashes_spelled rest
  have named := readDashes_named rest
  unfold readOption at read
  generalize readDashes rest = split at *
  obtain ⟨dashes, body⟩ := split
  dsimp only at dashed named read
  have spelled : body = body.takeWhile inOptionName ++ body.dropWhile inOptionName :=
    List.takeWhile_append_dropWhile.symm
  have stopped : (∀ value, body.dropWhile inOptionName ≠ '=' :: value) →
      AtBreak (body.dropWhile inOptionName) := atBreak_of_not_equals
  generalize body.takeWhile inOptionName = name at *
  generalize body.dropWhile inOptionName = tail at *
  rw [spelled] at dashed
  by_cases empty : name.isEmpty = true
  · rw [if_pos empty] at read
    cases read
  rw [if_neg empty] at read
  have written := named (by simpa using empty)
  split at read
  · rename_i valueText
    split at read
    · rename_i value remaining readValue
      cases read
      have off := readAttached_readOff readValue
      refine ⟨Token.readOff_option ?_ ⟨?_, ?_⟩ ⟨written, ?_⟩ off.delimited, rfl⟩
      · rw [dashed, off.spelled]
        simp [OptionUse.spelling, OptionUse.head]
      · simp [OptionUse.head, Dashes.size_eq_bytes]
      · intro other same
        cases same
        exact off.span
      · intro other same
        cases same
        exact off.readable
    · cases read
  · rename_i other
    cases read
    refine ⟨Token.readOff_option ?_ ⟨?_, ?_⟩ ⟨written, ?_⟩ fun _ => stopped other, rfl⟩
    · rw [dashed]
      simp [OptionUse.spelling, OptionUse.head]
    · simp [OptionUse.head, Dashes.size_eq_bytes]
    · intro value same
      cases same
    · intro value same
      cases same

/-! ## Tokens -/

theorem readToken_readOff {quote : Char} {first : Bool} {start : Nat} {char : Char}
    {rest after : List Char} {token : Token} (unblank : Text.isBlank char = false)
    (read : readToken quote first start char rest = .ok (token, after)) :
    token.ReadOff quote start (char :: rest) after ∧ token.kind.isProgram = first := by
  unfold readToken at read
  by_cases quoted : char = quote
  · rw [if_pos quoted] at read
    subst quoted
    split at read
    · rename_i value remaining readValue
      cases read
      obtain ⟨off, closed⟩ := readQuoted_readOff readValue
      cases first with
      | true =>
          refine ⟨⟨off.spelled, off.span, ?_, off.readable, off.delimited⟩, rfl⟩
          intro given same
          cases same
      | false =>
          refine ⟨⟨off.spelled, off.span, ?_, ⟨off.readable, closed⟩, off.delimited⟩, rfl⟩
          intro given same
          cases same
    · cases read
  rw [if_neg quoted] at read
  by_cases dash : (char = '-' && !first) = true
  · rw [if_pos dash] at read
    obtain ⟨rfl, rfl⟩ : char = '-' ∧ first = false := by simpa using dash
    exact readOption_readOff read
  · rw [if_neg dash] at read
    cases read
    have bare := bare_word rest unblank quoted
    cases first with
    | true =>
        refine ⟨⟨?_, ?_, ?_, bare, fun _ => Text.atBreak_afterWord rest⟩, rfl⟩
        · simp [Token.Kind.spelling, Literal.spelling]
        · simp [Token.Kind.spelling, Literal.spelling]
        · intro given same
          cases same
    | false =>
        refine ⟨⟨?_, ?_, ?_, ⟨bare, ?_⟩, fun _ => Text.atBreak_afterWord rest⟩, rfl⟩
        · simp [Token.Kind.spelling]
        · simp [Token.Kind.spelling]
        · intro given same
          cases same
        · simpa using dash

end CommandLine
