import CommandLine.Proofs.Span
import CommandLine.Token.Read

/-!
# Spellings

Every token has one spelling for a given quote: literals stand bare or between
quotes, options behind their dashes and before an equals sign and their value.
`Readable` lists what a token must satisfy for its spelling to be read back, and
`ReadOff` says that a token was read off the front of a text: the text starts
with its spelling, its spans are where its parts are spelled, and what follows
cannot belong to it.
-/

set_option autoImplicit false

namespace CommandLine

namespace Text

def AtBreak (text : List Char) : Prop :=
  ∀ char ∈ text.head?, isBlank char = true

theorem atBreak_nil : AtBreak [] :=
  nofun

theorem atBreak_cons_iff (char : Char) (rest : List Char) :
    AtBreak (char :: rest) ↔ isBlank char = true := by
  simp [AtBreak]

theorem AtBreak.left {front back : List Char} (ended : AtBreak (front ++ back)) :
    AtBreak front := by
  cases front with
  | nil => exact atBreak_nil
  | cons char rest => exact (atBreak_cons_iff ..).2 ((atBreak_cons_iff ..).1 ended)

end Text

open Text (bytes AtBreak)

/-- A word that can stand bare: it has no blank and does not start with the quote. -/
structure Bare (quote : Char) (text : String) : Prop where
  nonempty : text.toList ≠ []
  unblank : ∀ char ∈ text.toList, Text.isBlank char = false
  unquoted : text.toList.head? ≠ some quote

instance (quote : Char) (text : String) : Decidable (Bare quote text) :=
  decidable_of_iff
    (text.toList ≠ [] ∧ (text.toList.all fun char => !Text.isBlank char) = true ∧
      text.toList.head? ≠ some quote) <| by
    simp only [List.all_eq_true, Bool.not_eq_true']
    exact ⟨fun ⟨nonempty, unblank, unquoted⟩ => ⟨nonempty, unblank, unquoted⟩,
      fun bare => ⟨bare.nonempty, bare.unblank, bare.unquoted⟩⟩

namespace Literal

def spelling (quote : Char) (literal : Literal) : List Char :=
  if literal.quoted then quote :: (literal.text.toList ++ [quote]) else literal.text.toList

def Readable (quote : Char) (literal : Literal) : Prop :=
  if literal.quoted then quote ∉ literal.text.toList else Bare quote literal.text

instance (quote : Char) (literal : Literal) : Decidable (literal.Readable quote) :=
  inferInstanceAs (Decidable (if literal.quoted then _ else _))

end Literal

namespace OptionUse

def head (option : OptionUse) : List Char :=
  option.dashes.text.toList ++ option.name.toList

def spelling (quote : Char) (option : OptionUse) : List Char :=
  match option.value? with
  | none => option.head
  | some value => option.head ++ '=' :: value.literal.spelling quote

structure Named (dashes : Dashes) (name : String) : Prop where
  nonempty : name.toList ≠ []
  inName : ∀ char ∈ name.toList, inOptionName char = true
  undashed : dashes = .short → name.toList.head? ≠ some '-'

instance (dashes : Dashes) (name : String) : Decidable (Named dashes name) :=
  decidable_of_iff
    (name.toList ≠ [] ∧ name.toList.all inOptionName = true ∧
      (dashes = .short → name.toList.head? ≠ some '-')) <| by
    rw [List.all_eq_true]
    exact ⟨fun ⟨nonempty, inName, undashed⟩ => ⟨nonempty, inName, undashed⟩,
      fun named => ⟨named.nonempty, named.inName, named.undashed⟩⟩

structure Readable (quote : Char) (option : OptionUse) : Prop where
  named : Named option.dashes option.name
  value : ∀ value ∈ option.value?, value.literal.Readable quote

instance (quote : Char) (option : OptionUse) : Decidable (option.Readable quote) :=
  decidable_of_iff
    (Named option.dashes option.name ∧ ∀ value ∈ option.value?, value.literal.Readable quote)
    ⟨fun ⟨named, value⟩ => ⟨named, value⟩, fun readable => ⟨readable.named, readable.value⟩⟩

structure PlacedAt (quote : Char) (start : Nat) (option : OptionUse) : Prop where
  name : option.nameSpan = ⟨start, bytes option.head⟩
  value : ∀ value ∈ option.value?,
    value.span = ⟨option.nameSpan.stop + 1, bytes (value.literal.spelling quote)⟩

end OptionUse

namespace Token.Kind

def spelling (quote : Char) : Token.Kind → List Char
  | .program literal => literal.spelling quote
  | .command name => name.toList
  | .option given => given.spelling quote
  | .value literal => literal.spelling quote

def Readable (quote : Char) : Token.Kind → Prop
  | .program literal => literal.Readable quote
  | .command name => Bare quote name ∧ name.toList.head? ≠ some '-'
  | .option given => given.Readable quote
  | .value literal => literal.Readable quote ∧ literal.quoted = true

instance (quote : Char) : (kind : Token.Kind) → Decidable (kind.Readable quote)
  | .program literal => inferInstanceAs (Decidable (literal.Readable quote))
  | .command name => inferInstanceAs (Decidable (Bare quote name ∧ name.toList.head? ≠ some '-'))
  | .option given => inferInstanceAs (Decidable (given.Readable quote))
  | .value literal =>
      inferInstanceAs (Decidable (literal.Readable quote ∧ literal.quoted = true))

def isProgram : Token.Kind → Bool
  | .program _ => true
  | _ => false

def endsQuoted : Token.Kind → Bool
  | .program literal => literal.quoted
  | .command _ => false
  | .option given => given.value?.any fun value => value.literal.quoted
  | .value literal => literal.quoted

end Token.Kind

structure Value.ReadOff (quote : Char) (start : Nat) (text : List Char) (value : Value)
    (after : List Char) : Prop where
  spelled : text = value.literal.spelling quote ++ after
  span : value.span = ⟨start, bytes (value.literal.spelling quote)⟩
  readable : value.literal.Readable quote
  delimited : value.literal.quoted = false → AtBreak after

structure Token.ReadOff (quote : Char) (start : Nat) (text : List Char) (token : Token)
    (after : List Char) : Prop where
  spelled : text = token.kind.spelling quote ++ after
  span : token.span = ⟨start, bytes (token.kind.spelling quote)⟩
  parts : ∀ given, token.kind = .option given → given.PlacedAt quote start
  readable : token.kind.Readable quote
  delimited : token.kind.endsQuoted = false → AtBreak after

theorem Literal.Readable.spelling_ne_nil {quote : Char} {literal : Literal}
    (readable : literal.Readable quote) : literal.spelling quote ≠ [] := by
  unfold Literal.Readable at readable
  unfold Literal.spelling
  split at readable
  · rename_i quoted
    simp [quoted]
  · rename_i bare
    rw [if_neg bare]
    exact readable.nonempty

theorem OptionUse.head_ne_nil (option : OptionUse) : option.head ≠ [] := by
  unfold OptionUse.head
  cases option.dashes <;> simp [Dashes.text]

theorem Token.Kind.Readable.spelling_ne_nil {quote : Char} {kind : Token.Kind}
    (readable : kind.Readable quote) : kind.spelling quote ≠ [] := by
  cases kind with
  | program literal => exact Literal.Readable.spelling_ne_nil readable
  | command name => exact readable.1.nonempty
  | option given =>
      have dashed := given.head_ne_nil
      change given.spelling quote ≠ []
      unfold OptionUse.spelling
      split
      · exact dashed
      · simp
  | value literal => exact Literal.Readable.spelling_ne_nil readable.1

theorem OptionUse.PlacedAt.span_eq {quote : Char} {start : Nat} {option : OptionUse}
    (placed : option.PlacedAt quote start) :
    option.span = ⟨start, bytes (option.spelling quote)⟩ := by
  unfold OptionUse.span OptionUse.spelling
  cases given : option.value? with
  | none => exact placed.name
  | some value =>
      have valueSpan := placed.value value given
      have order : option.nameSpan.stop ≤ value.span.position := by
        rw [valueSpan]
        exact Nat.le_succ _
      dsimp only
      rw [Span.cover_eq_of_le _ _ order, valueSpan, placed.name]
      simp [Span.stop, Char.utf8Size]
      omega

end CommandLine
