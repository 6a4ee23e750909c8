import CommandLine.Proofs.Token.Mapped
import CommandLine.Proofs.Tree.Tokens

/-!
# Parts under a change of spans

A function on spans changes all spans in the parts of a line, and nothing else.  Which items
some tokens form, and which commands these form, does not hang on spans: parts can be read
and put together before or after their spans are changed (`ofTokens_map_mapSpans`,
`assemble_map_mapSpans`).
-/

set_option autoImplicit false

namespace CommandLine

section Mapped

variable (change : Span → Span)

def Item.mapSpans : Item → Item
  | .command name nameSpan => .command name (change nameSpan)
  | .option given => .option (given.mapSpans change)

mutual

def CommandUse.mapSpans : CommandUse → CommandUse
  | ⟨name, nameSpan, commands, options⟩ =>
      ⟨name, change nameSpan, CommandUse.mapSpansAll commands,
        options.map (OptionUse.mapSpans change)⟩

def CommandUse.mapSpansAll : List CommandUse → List CommandUse
  | [] => []
  | command :: rest => command.mapSpans :: CommandUse.mapSpansAll rest

end

theorem CommandUse.mapSpansAll_eq_map (commands : List CommandUse) :
    mapSpansAll change commands = commands.map (mapSpans change) := by
  induction commands with
  | nil => rfl
  | cons command rest ih => rw [mapSpansAll, ih, List.map_cons]

theorem CommandUse.mapSpans_eq (command : CommandUse) :
    command.mapSpans change = ⟨command.name, change command.nameSpan,
      command.commands.map (mapSpans change),
      command.options.map (OptionUse.mapSpans change)⟩ := by
  cases command
  rw [mapSpans, mapSpansAll_eq_map]

/-! ## Reading changed tokens -/

theorem Token.asValue?_mapSpans (token : Token) :
    (token.mapSpans change).asValue? = token.asValue?.map (Value.mapSpans change) := by
  rcases token with ⟨kind, span⟩
  cases kind <;> rfl

theorem OptionUse.valueFrom?_mapSpans (style : ValueStyle) (option : OptionUse) (next : Token) :
    (option.mapSpans change).valueFrom? style (next.mapSpans change) =
      (option.valueFrom? style next).map (Value.mapSpans change) := by
  rcases option with ⟨name, nameSpan, dashes, value?⟩
  cases style <;> cases value? <;> simp [valueFrom?, mapSpans, Token.asValue?_mapSpans]

namespace Item

theorem ofTokens_map_mapSpans (style : ValueStyle) (tokens : List Token) :
    ofTokens style (tokens.map (Token.mapSpans change)) =
      ((ofTokens style tokens).1.map (mapSpans change),
        (ofTokens style tokens).2.map (Token.mapSpans change)) := by
  fun_induction ofTokens style tokens with
  | case1 => rfl
  | case2 name span rest items misplaced found ih =>
      rw [found] at ih
      change ofTokens style (⟨.command name, change span⟩ :: rest.map _) = _
      rw [ofTokens, ih]
      rfl
  | case3 given span => rfl
  | case4 given span next rest value taken items misplaced found ih =>
      have takenAlike := given.valueFrom?_mapSpans change style next
      rw [taken] at takenAlike
      rw [found] at ih
      rw [List.map_cons, List.map_cons, Token.mapSpans, Token.Kind.mapSpans, ofTokens,
        takenAlike, Option.map_some, ih]
      rfl
  | case5 given span next rest apart items misplaced found ih =>
      have apartAlike := given.valueFrom?_mapSpans change style next
      rw [apart] at apartAlike
      rw [found, List.map_cons] at ih
      rw [List.map_cons, List.map_cons, Token.mapSpans, Token.Kind.mapSpans, ofTokens,
        apartAlike, Option.map_none, ih]
      rfl
  | case6 token rest noCommand noOptionLast noOption =>
      rcases token with ⟨kind, span⟩
      cases kind with
      | program literal => rfl
      | value literal => rfl
      | command name => exact (noCommand name span rfl).elim
      | option given =>
          cases rest with
          | nil => exact (noOptionLast given span rfl rfl).elim
          | cons next more => exact (noOption given span next more rfl rfl).elim

theorem startWithOption_map_mapSpans (items : List Item) :
    startWithOption (items.map (mapSpans change)) = startWithOption items := by
  rcases items with - | ⟨item, rest⟩
  · rfl
  · cases item <;> rfl

theorem tooDeep?_map_mapSpans (limit depth : Nat) (items : List Item) :
    tooDeep? limit depth (items.map (mapSpans change)) =
      (tooDeep? limit depth items).map change := by
  induction items generalizing depth with
  | nil => rfl
  | cons item rest ih =>
      cases item with
      | option given => exact ih depth
      | command name nameSpan =>
          rw [List.map_cons, mapSpans, tooDeep?, tooDeep?, startWithOption_map_mapSpans, ih]
          split <;> rfl

theorem assemble_map_mapSpans (items : List Item) :
    assemble (items.map (mapSpans change)) =
      ((assemble items).1.map (OptionUse.mapSpans change),
        (assemble items).2.map (CommandUse.mapSpans change)) := by
  induction items with
  | nil => rfl
  | cons item rest ih =>
      cases item with
      | option given => rw [List.map_cons, mapSpans, assemble_option, ih]; rfl
      | command name nameSpan =>
          rw [List.map_cons, mapSpans, assemble_command, assemble_command, ih,
            startWithOption_map_mapSpans]
          split <;> simp [CommandUse.mapSpans_eq]

end Item

end Mapped

end CommandLine
