import CommandLine.Proofs.Token.Recognition

/-!
# What the errors of readers say

A reader that fails describes a part of its text: a quote that is not closed, together with
all behind it, or a whole word that starts like an option and has no name or no value.
`LexError.Describes` says this of any text that holds the part, so a description can be
carried over to a longer text (`LexError.Describes.behind`).

A quotation is looked for before a blank behind an equals sign, so a quote that is a blank
opens a value there and none is missing.
-/

set_option autoImplicit false

namespace CommandLine

open Text (bytes AtBreak)

/-- A word that starts like an option and is none, and the reason. -/
inductive Misspelled : List Char → String → Prop
  /-- Nothing but an equals sign can follow the dashes. -/
  | nameless (dashes : Dashes) {rest : List Char} (stopped : ∀ char ∈ rest.head?, char = '=') :
      Misspelled (dashes.text.toList ++ rest) LexError.missingName
  | valueless {dashes : Dashes} {name : String} (named : OptionUse.Named dashes name) :
      Misspelled (dashes.text.toList ++ name.toList ++ ['=']) LexError.missingValue

/-- An error is true of a part of a text that starts at an offset, and its span is the place of
this part. -/
inductive LexError.Describes (quote : Char) (start : Nat) (text : List Char) : LexError → Prop
  | unterminated {front body : List Char} (whole : text = front ++ quote :: body)
      (unclosed : quote ∉ body) :
      Describes quote start text
        (.unterminatedQuote quote ⟨start + bytes front, bytes (quote :: body)⟩)
  | malformed {front word after : List Char} {reason : String}
      (whole : text = front ++ word ++ after)
      (unblank : ∀ char ∈ word, Text.isBlank char = false) (delimited : AtBreak after)
      (misspelled : Misspelled word reason) :
      Describes quote start text
        (.malformedOption (String.ofList word) reason ⟨start + bytes front, bytes word⟩)

namespace LexError.Describes

variable {quote : Char} {start : Nat} {text : List Char} {error : LexError}

theorem behind (lead : List Char) (describes : error.Describes quote (start + bytes lead) text) :
    error.Describes quote start (lead ++ text) := by
  cases describes with
  | @unterminated front body whole unclosed =>
      rw [Nat.add_assoc, ← Text.bytes_append]
      exact .unterminated (by rw [whole, List.append_assoc]) unclosed
  | @malformed front word after reason whole unblank delimited misspelled =>
      rw [Nat.add_assoc, ← Text.bytes_append]
      refine .malformed ?_ unblank delimited misspelled
      rw [whole]
      simp

theorem start_le (describes : error.Describes quote start text) : start ≤ error.span.position := by
  cases describes with
  | unterminated whole unclosed => exact Nat.le_add_right ..
  | malformed whole unblank delimited misspelled => exact Nat.le_add_right ..

end LexError.Describes

/-! ## Quotations and values -/

theorem readQuoted_describes {quote : Char} {start : Nat} {body : List Char} {error : LexError}
    (failed : readQuoted quote start body = .error error) :
    error.Describes quote start (quote :: body) := by
  unfold readQuoted at failed
  split at failed
  · cases failed
  · rename_i absent
    cases failed
    have whole : quote :: body = [] ++ quote :: body := rfl
    exact .unterminated whole ((closeQuote?_eq_none_iff ..).1 absent)

theorem readAttached_describes {quote : Char} {start : Nat} {missing error : LexError}
    {text : List Char} (failed : readAttached quote start missing text = .error error) :
    error = missing ∧ AtBreak text ∨ error.Describes quote start text := by
  cases text with
  | nil =>
      cases failed
      exact .inl ⟨rfl, Text.atBreak_nil⟩
  | cons char rest =>
      simp only [readAttached] at failed
      split at failed
      · rename_i quoted
        subst quoted
        exact .inr (readQuoted_describes failed)
      · split at failed
        · rename_i blank
          cases failed
          exact .inl ⟨rfl, (Text.atBreak_cons_iff ..).2 blank⟩
        · cases failed

/-! ## Options -/

/-- A word that starts with dashes goes on as the text behind these does. -/
theorem word_readDashes (rest : List Char) :
    '-' :: Text.word rest = (readDashes rest).1.text.toList ++ Text.word (readDashes rest).2 := by
  unfold readDashes
  split
  · simp [Text.word, Dashes.text, Text.isBlank]
  · simp [Dashes.text]

/-- Where no name starts, a word ends or goes on with an equals sign. -/
theorem head?_word_of_nameless {body : List Char} (nameless : body.takeWhile inOptionName = []) :
    ∀ char ∈ (Text.word body).head?, char = '=' := by
  cases body with
  | nil => simp [Text.word]
  | cons char rest =>
      have stopped : inOptionName char = false := by
        cases inside : inOptionName char with
        | false => rfl
        | true => simp [inside] at nameless
      intro other first
      by_cases blank : Text.isBlank char = true
      · simp [Text.word, blank] at first
      · obtain rfl : char = other := by simpa [Text.word, blank] using first
        simpa [inOptionName, blank] using stopped

/-- A name and an equals sign without a value end a word. -/
theorem OptionUse.Named.word_valueless {dashes : Dashes} {name : String} {after : List Char}
    (named : OptionUse.Named dashes name) (ended : AtBreak after) :
    Text.word (name.toList ++ '=' :: after) = name.toList ++ ['='] := by
  have unblank : ∀ char ∈ name.toList ++ ['='], Text.isBlank char = false := by
    intro char member
    rcases List.mem_append.1 member with inside | sign
    · have inName := named.inName char inside
      rw [inOptionName, Bool.and_eq_true] at inName
      simpa using inName.2
    · obtain rfl := List.mem_singleton.1 sign
      decide
  have whole : name.toList ++ '=' :: after = name.toList ++ ['='] ++ after := by simp
  rw [whole, Text.word_append unblank ended]

theorem readOption_describes {quote : Char} {start : Nat} {rest : List Char} {error : LexError}
    (failed : readOption quote start rest = .error error) :
    error.Describes quote start ('-' :: rest) := by
  have dashed := readDashes_spelled rest
  have wordDashed := word_readDashes rest
  have named := readDashes_named rest
  have malformed {reason : String} (misspelled : Misspelled ('-' :: Text.word rest) reason) :
      LexError.Describes quote start ('-' :: rest) (.malformedOption
        (String.ofList ('-' :: Text.word rest)) reason
          ⟨start, bytes ('-' :: Text.word rest)⟩) := by
    have whole : '-' :: rest = [] ++ '-' :: Text.word rest ++ Text.afterWord rest := by simp
    refine .malformed whole ?_ (Text.atBreak_afterWord rest) misspelled
    exact List.forall_mem_cons.2 ⟨by decide, fun _ => Text.isBlank_eq_false_of_mem_word⟩
  unfold readOption at failed
  generalize readDashes rest = split at *
  obtain ⟨dashes, body⟩ := split
  dsimp only at dashed wordDashed named failed
  have spelled : body.takeWhile inOptionName ++ body.dropWhile inOptionName = body :=
    List.takeWhile_append_dropWhile
  split at failed
  · rename_i empty
    cases failed
    apply malformed
    rw [wordDashed]
    exact .nameless dashes (head?_word_of_nameless (by simpa using empty))
  · rename_i nonempty
    replace named := named (by simpa using nonempty)
    generalize body.takeWhile inOptionName = name at *
    split at failed
    · rename_i valueText tail
      rw [tail] at spelled
      subst spelled
      split at failed
      · cases failed
      · rename_i failedValue
        cases failed
        rcases readAttached_describes failedValue with ⟨rfl, ended⟩ | describes
        · have word := named.word_valueless ended
          rw [String.toList_ofList] at word
          apply malformed
          rw [wordDashed, word, ← List.append_assoc]
          simpa using Misspelled.valueless named
        · have lead : '-' :: rest = dashes.text.toList ++ name ++ ['='] ++ valueText := by
            rw [dashed]
            simp
          rw [lead]
          apply LexError.Describes.behind
          simpa [Span.stop, Dashes.size_eq_bytes, Char.utf8Size, Nat.add_assoc] using describes
    · cases failed

/-! ## Tokens -/

theorem readToken_describes {quote : Char} {first : Bool} {start : Nat} {char : Char}
    {rest : List Char} {error : LexError}
    (failed : readToken quote first start char rest = .error error) :
    error.Describes quote start (char :: rest) := by
  unfold readToken at failed
  split at failed
  · rename_i quoted
    subst quoted
    split at failed
    · cases failed
    · rename_i failedValue
      cases failed
      exact readQuoted_describes failedValue
  · split at failed
    · rename_i dash
      obtain ⟨rfl, -⟩ : char = '-' ∧ first = false := by simpa using dash
      exact readOption_describes failed
    · cases failed

end CommandLine
