import CommandLine.Proofs.Token.Layout
import CommandLine.Proofs.Tree.Flatten
import CommandLine.Tree.Parse

/-!
# Tokens of items

A tree does not say whether an option took its value from its own word or from
the next one, but the source does: only an attached value stands behind an equals
sign.  With the source at hand items can be written as tokens again, and this
undoes the reading of tokens as items: `tokens_ofTokens`.
-/

set_option autoImplicit false

namespace CommandLine

open Text (bytes)

def Value.isAttached (source : String) (value : Value) : Bool :=
  (value.span.before source).getLast? == some '='

def Value.token (value : Value) : Token :=
  ⟨if value.literal.quoted then .value value.literal else .command value.literal.text,
    value.span⟩

/-- The token of a value, if it is not a part of its option's token. -/
def Value.tokens (source : String) (value : Value) : List Token :=
  if value.isAttached source then [] else [value.token]

/-- The token of an option, with its value if that is attached. -/
def OptionUse.token (source : String) (option : OptionUse) : Token :=
  let written := { option with value? := option.value?.filter (Value.isAttached source) }
  ⟨.option written, written.span⟩

def Item.tokens (source : String) : Item → List Token
  | .command name nameSpan => [⟨.command name, nameSpan⟩]
  | .option given => given.token source :: given.value?.toList.flatMap (Value.tokens source)

def Tree.tokens (tree : Tree) : List Token :=
  ⟨.program tree.program.literal, tree.program.span⟩ ::
    (Item.ofParts tree.commands tree.options).flatMap (Item.tokens tree.source)

def Node.tokens (source : String) : Node → List Token
  | .root _ => []
  | .program given => [⟨.program given.literal, given.span⟩]
  | .command given => [⟨.command given.name, given.nameSpan⟩]
  | .option given => [given.token source]
  | .value given => given.tokens source

/-! ## Attached and taken values -/

theorem Token.StandsIn.readable {quote : Char} {source : String} {token : Token}
    (stands : token.StandsIn quote source) : token.kind.Readable quote := by
  obtain ⟨front, text, after, whole, off⟩ := stands
  exact off.readable

theorem isAttached_of_standsIn {quote : Char} {source : String} {option : OptionUse} {span : Span}
    {value : Value} (stands : Token.StandsIn quote source ⟨.option option, span⟩)
    (given : option.value? = some value) : value.isAttached source = true := by
  obtain ⟨front, text, after, whole, off⟩ := stands
  have placed := off.parts option rfl
  have spelled : text = option.head ++ '=' :: value.literal.spelling quote ++ after := by
    have spelled := off.spelled
    simpa only [Token.Kind.spelling, OptionUse.spelling, given] using spelled
  have before : value.span.before source = front ++ option.head ++ ['='] := by
    apply Span.before_eq (value.literal.spelling quote ++ after)
    · rw [whole, spelled]
      simp
    · rw [placed.value value given, placed.name]
      simp [Span.stop, Char.utf8Size, Nat.add_assoc]
  simp [Value.isAttached, before]

theorem Token.StandsIn.span_eq {quote : Char} {source : String} {option : OptionUse} {span : Span}
    (stands : Token.StandsIn quote source ⟨.option option, span⟩) : span = option.span := by
  obtain ⟨front, text, after, whole, off⟩ := stands
  rw [(off.parts option rfl).span_eq]
  exact off.span

theorem Item.tokens_of_standsIn {quote : Char} {source : String} {option : OptionUse} {span : Span}
    (stands : Token.StandsIn quote source ⟨.option option, span⟩) :
    Item.tokens source (.option option) = [⟨.option option, span⟩] := by
  have attached : ∀ value, option.value? = some value → value.isAttached source = true :=
    fun value given => isAttached_of_standsIn stands given
  obtain rfl := stands.span_eq
  rcases option with ⟨name, nameSpan, dashes, value?⟩
  cases value? with
  | none => rfl
  | some value =>
      have here := attached value rfl
      simp [Item.tokens, OptionUse.token, Value.tokens, Option.filter, here]

theorem Item.tokens_of_taken {source : String} (option : OptionUse) {value : Value}
    (bare : option.value? = none) (loose : value.isAttached source = false) :
    Item.tokens source (.option { option with value? := some value }) =
      [⟨.option option, option.nameSpan⟩, value.token] := by
  rcases option with ⟨name, nameSpan, dashes, value?⟩
  subst bare
  simp [Item.tokens, OptionUse.token, OptionUse.span, Value.tokens, Option.filter, loose]

theorem Token.token_of_asValue? {quote : Char} {token : Token} {value : Value}
    (readable : token.kind.Readable quote) (taken : token.asValue? = some value) :
    value.token = token := by
  rcases token with ⟨kind, span⟩
  cases kind with
  | program literal => cases taken
  | command name =>
      cases taken
      rfl
  | option given => cases taken
  | value literal =>
      cases taken
      simp [Value.token, readable.2]

theorem Token.span_of_asValue? {token : Token} {value : Value}
    (taken : token.asValue? = some value) : value.span = token.span := by
  rcases token with ⟨kind, span⟩
  cases kind <;> cases taken <;> rfl

theorem OptionUse.valueFrom?_eq_some_iff (style : ValueStyle) (option : OptionUse) (next : Token)
    (value : Value) :
    option.valueFrom? style next = some value ↔
      style = .nextToken ∧ option.value? = none ∧ next.asValue? = some value := by
  unfold OptionUse.valueFrom?
  cases style <;> cases option.value? <;> simp

theorem LaidOut.taken_not_attached {quote : Char} {source : String} {rest : List Char}
    {token next : Token} {tokens : List Token} {value : Value}
    (laidOut : LaidOut quote source (token :: next :: tokens) rest)
    (bare : token.kind.endsQuoted = false) (taken : next.asValue? = some value) :
    value.isAttached source = false := by
  obtain ⟨lead, char, before, blank⟩ := laidOut.blank_before bare
  rw [Value.isAttached, Token.span_of_asValue? taken, before, List.getLast?_concat]
  have unequal : char ≠ '=' := by
    intro equals
    rw [equals] at blank
    cases blank
  simp [unequal]

/-! ## From tokens to items and back -/

theorem Item.tokens_ofTokens {quote : Char} {source : String} {rest : List Char}
    (style : ValueStyle) {tokens : List Token} (laidOut : LaidOut quote source tokens rest)
    (placed : (ofTokens style tokens).2 = none) :
    (ofTokens style tokens).1.flatMap (Item.tokens source) = tokens := by
  fun_induction ofTokens style tokens with
  | case1 => rfl
  | case2 name span rest items misplaced found ih =>
      rw [found] at ih
      have below := ih laidOut.head_and_tail.2 placed
      simp only [List.flatMap_cons, below]
      rfl
  | case3 given span =>
      rw [List.flatMap_singleton]
      exact Item.tokens_of_standsIn laidOut.head_and_tail.1
  | case4 given span next rest value taken items misplaced found ih =>
      -- the option and the token behind it become one item
      obtain ⟨-, bare, asValue⟩ := (OptionUse.valueFrom?_eq_some_iff ..).1 taken
      obtain ⟨stands, further⟩ := laidOut.head_and_tail
      obtain ⟨nextStands, furthest⟩ := further.head_and_tail
      rw [found] at ih
      have below := ih furthest placed
      have loose := laidOut.taken_not_attached (by simp [Token.Kind.endsQuoted, bare]) asValue
      have same := Token.token_of_asValue? nextStands.readable asValue
      have spanEq : span = given.nameSpan := by
        rw [stands.span_eq, OptionUse.span, bare]
      simp only [List.flatMap_cons, below, Item.tokens_of_taken given bare loose, same, spanEq]
      rfl
  | case5 given span next rest taken items misplaced found ih =>
      rw [found] at ih
      have below := ih laidOut.head_and_tail.2 placed
      simp only [List.flatMap_cons, below, Item.tokens_of_standsIn laidOut.head_and_tail.1]
      rfl
  | case6 token rest => cases placed

end CommandLine
