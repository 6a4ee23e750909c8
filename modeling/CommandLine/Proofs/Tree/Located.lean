import CommandLine.Proofs.Tree.Tokens
import Mathlib.Data.List.Basic

/-!
# Located items

Items are located in a source when each part of them marks a part of the source
and they come in order.  Items that were read from a source are located, because
their tokens are (`itemsLocated_of_tokens`).  A located tree has its parts where a
reader expects them: siblings do not overlap, and a command reaches from its name
to the end of its last item.
-/

set_option autoImplicit false

namespace CommandLine

open Text (bytes)

/-- The parts of an option mark parts of a source, the name before the value. -/
structure OptionUse.Located (source : String) (option : OptionUse) : Prop where
  name : option.nameSpan.Marks source
  value : ∀ value ∈ option.value?, value.span.Marks source
  order : ∀ value ∈ option.value?, option.nameSpan.stop ≤ value.span.position

def Item.Located (source : String) : Item → Prop
  | .command _ nameSpan => nameSpan.Marks source
  | .option given => given.Located source

/-- Items are located, and none starts before the one in front of it ends. -/
structure ItemsLocated (source : String) (items : List Item) : Prop where
  each : ∀ item ∈ items, item.Located source
  ordered : items.Pairwise fun item next => item.span.stop ≤ next.span.position

/-! ## Items of a source -/

namespace Token.StandsIn

variable {quote : Char} {source : String}

theorem marks {token : Token} (stands : token.StandsIn quote source) :
    token.span.Marks source :=
  Span.marks_of_slice? stands.sliced.whole stands.readable.spelling_ne_nil

theorem optionLocated {option : OptionUse} {span : Span}
    (stands : Token.StandsIn quote source ⟨.option option, span⟩) : option.Located source := by
  have sliced := stands.sliced
  have readable : option.Readable quote := stands.readable
  obtain ⟨front, text, after, whole, off⟩ := stands
  refine ⟨Span.marks_of_slice? (sliced.head option rfl) option.head_ne_nil, ?_, ?_⟩
  · intro value given
    exact Span.marks_of_slice? (sliced.value option rfl value given)
      (readable.value value given).spelling_ne_nil
  · intro value given
    rw [(off.parts option rfl).value value given]
    exact Nat.le_succ _

end Token.StandsIn

theorem OptionUse.Located.position_eq {source : String} {option : OptionUse}
    (located : option.Located source) : option.span.position = option.nameSpan.position := by
  unfold OptionUse.span
  split
  · rfl
  · rename_i value given
    rw [Span.cover_eq_of_le _ _ (located.order value given)]

theorem OptionUse.Located.stop_eq {source : String} {option : OptionUse} {value : Value}
    (located : option.Located source) (given : option.value? = some value) :
    option.span.stop = value.span.stop := by
  have forward := option.nameSpan.position_le_stop
  have order := located.order value given
  have further := value.span.position_le_stop
  unfold OptionUse.span
  rw [given]
  simp only [Span.stop_cover]
  omega

theorem OptionUse.Located.marks {source : String} {option : OptionUse}
    (located : option.Located source) : option.span.Marks source := by
  unfold OptionUse.span
  split
  · exact located.name
  · rename_i value given
    exact located.name.cover (located.value value given)

theorem Item.Located.marks {source : String} {item : Item} (located : item.Located source) :
    item.span.Marks source := by
  cases item with
  | command name nameSpan => exact located
  | option given => exact OptionUse.Located.marks located

theorem Item.located_of_tokens {quote : Char} {source : String} {item : Item}
    (stand : ∀ token ∈ item.tokens source, token.StandsIn quote source)
    (ordered : (item.tokens source).Pairwise fun token next =>
      token.span.stop ≤ next.span.position) : item.Located source := by
  cases item with
  | command name nameSpan => exact (stand _ List.mem_cons_self).marks
  | option given =>
      rcases given with ⟨name, nameSpan, dashes, value?⟩
      cases value? with
      | none => exact (stand _ List.mem_cons_self).optionLocated
      | some value =>
          cases attached : value.isAttached source with
          | true =>
              have stands : Token.StandsIn quote source
                  ⟨.option ⟨name, nameSpan, dashes, some value⟩, nameSpan.cover value.span⟩ := by
                apply stand
                simp [Item.tokens, OptionUse.token, OptionUse.span, Option.filter, attached]
              exact stands.optionLocated
          | false =>
              have tokens := Item.tokens_of_taken ⟨name, nameSpan, dashes, none⟩
                rfl attached
              rw [tokens] at stand ordered
              have bare := (stand _ List.mem_cons_self).optionLocated
              have taken := (stand value.token (by simp)).marks
              refine ⟨bare.name, ?_, ?_⟩
              · intro other same
                obtain rfl : value = other := by simpa using same
                exact taken
              · intro other same
                obtain rfl : value = other := by simpa using same
                exact (List.pairwise_cons.1 ordered).1 value.token (by simp)

/-- The first token of an item starts it and the last one ends it. -/
theorem Item.Located.tokens_ends {source : String} {item : Item} (located : item.Located source) :
    (∃ token ∈ (item.tokens source).head?, token.span.position = item.span.position) ∧
      ∃ token ∈ (item.tokens source).getLast?, token.span.stop = item.span.stop := by
  cases item with
  | command name nameSpan => simp [Item.tokens, Item.span]
  | option given =>
      have placed : given.Located source := located
      have start := placed.position_eq
      rcases given with ⟨name, nameSpan, dashes, value?⟩
      cases value? with
      | none => simp [Item.tokens, OptionUse.token, OptionUse.span, Item.span]
      | some value =>
          have stop := placed.stop_eq rfl
          cases attached : value.isAttached source with
          | true =>
              simp [Item.tokens, OptionUse.token, OptionUse.span, Value.tokens, Option.filter,
                Item.span, attached]
          | false =>
              have tokens := Item.tokens_of_taken ⟨name, nameSpan, dashes, none⟩
                rfl attached
              rw [tokens]
              refine ⟨⟨_, rfl, start.symm⟩, ⟨_, rfl, stop.symm⟩⟩

theorem itemsLocated_of_tokens {quote : Char} {source : String} {items : List Item}
    (stand : ∀ token ∈ items.flatMap (Item.tokens source), token.StandsIn quote source)
    (ordered : (items.flatMap (Item.tokens source)).Pairwise fun token next =>
      token.span.stop ≤ next.span.position) : ItemsLocated source items := by
  obtain ⟨inside, between⟩ := List.pairwise_flatMap.1 ordered
  have each : ∀ item ∈ items, item.Located source := by
    intro item member
    have own : ∀ token ∈ item.tokens source, token.StandsIn quote source := by
      intro token part
      exact stand token (List.mem_flatMap.2 ⟨item, member, part⟩)
    exact Item.located_of_tokens own (inside item member)
  refine ⟨each, between.imp_of_mem ?_⟩
  intro item next member nextMember apart
  obtain ⟨-, last, lastOf, stop⟩ := (each item member).tokens_ends
  obtain ⟨⟨first, firstOf, start⟩, -⟩ := (each next nextMember).tokens_ends
  rw [← stop, ← start]
  exact apart last (List.mem_of_getLast? lastOf) first (List.mem_of_head? firstOf)

end CommandLine
