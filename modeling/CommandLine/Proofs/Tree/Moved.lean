import CommandLine.Proofs.Token.Written
import CommandLine.Proofs.Tree.Mapped

/-!
# Moved parts

A function on offsets moves the parts of a line: every span becomes a point where the
function takes its start.  What tokens form does not hang on where they stand, so items
can be read and put together before or after they are moved (`ofTokens_map_moved`,
`assemble_map_moved`).  Moving all parts to one offset leaves nothing of their places.
-/

set_option autoImplicit false

namespace CommandLine

/-! ## Moving -/

section Moved

variable (move : Nat → Nat)

/-- A span as the point to which its start is moved. -/
def Span.moved (span : Span) : Span :=
  .point (move span.position)

def Value.moved (value : Value) : Value :=
  ⟨value.literal, value.span.moved move⟩

def OptionUse.moved (option : OptionUse) : OptionUse :=
  { option with
    nameSpan := option.nameSpan.moved move
    value? := option.value?.map (Value.moved move) }

def Token.Kind.moved : Token.Kind → Token.Kind
  | .option given => .option (given.moved move)
  | kind => kind

def Token.moved (token : Token) : Token :=
  ⟨token.kind.moved move, token.span.moved move⟩

def Item.moved : Item → Item
  | .command name nameSpan => .command name (nameSpan.moved move)
  | .option given => .option (given.moved move)

mutual

def CommandUse.moved : CommandUse → CommandUse
  | ⟨name, nameSpan, commands, options⟩ =>
      ⟨name, nameSpan.moved move, CommandUse.movedAll commands,
        options.map (OptionUse.moved move)⟩

def CommandUse.movedAll : List CommandUse → List CommandUse
  | [] => []
  | command :: rest => command.moved :: CommandUse.movedAll rest

end

theorem CommandUse.movedAll_eq_map (commands : List CommandUse) :
    movedAll move commands = commands.map (moved move) := by
  induction commands with
  | nil => rfl
  | cons command rest ih => rw [movedAll, ih, List.map_cons]

theorem CommandUse.moved_eq (command : CommandUse) :
    command.moved move = ⟨command.name, command.nameSpan.moved move,
      command.commands.map (moved move), command.options.map (OptionUse.moved move)⟩ := by
  cases command
  rw [moved, movedAll_eq_map]

end Moved

/-! ## Parts moved to one offset -/

theorem Token.Kind.moved_zero (kind : Token.Kind) : kind.moved (fun _ => 0) = kind.unplaced := by
  cases kind <;> rfl

/-! ## Reading moved tokens -/

section Reading

variable (move : Nat → Nat)

theorem Token.moved_eq_mapSpans : moved move = mapSpans (Span.moved move) := by
  funext ⟨kind, span⟩
  cases kind <;> rfl

theorem Item.moved_eq_mapSpans : moved move = mapSpans (Span.moved move) := by
  funext item
  cases item <;> rfl

theorem CommandUse.moved_eq_mapSpans : moved move = mapSpans (Span.moved move) := by
  funext command
  induction command using CommandUse.induction with
  | step name nameSpan commands options ih =>
      rw [moved_eq, mapSpans_eq]
      exact congrArg (fun below => (⟨name, nameSpan.moved move, below, _⟩ : CommandUse))
        (List.map_congr_left ih)

/-- What a token is called in a message does not hang on its place. -/
theorem Token.describe_moved (token : Token) : (token.moved move).describe = token.describe := by
  rw [moved_eq_mapSpans, describe_mapSpans]

namespace Item

theorem ofTokens_map_moved (style : ValueStyle) (tokens : List Token) :
    ofTokens style (tokens.map (Token.moved move)) =
      ((ofTokens style tokens).1.map (moved move),
        (ofTokens style tokens).2.map (Token.moved move)) := by
  rw [Token.moved_eq_mapSpans, moved_eq_mapSpans, ofTokens_map_mapSpans]

theorem tooDeep?_map_moved (limit depth : Nat) (items : List Item) :
    tooDeep? limit depth (items.map (moved move)) =
      (tooDeep? limit depth items).map (Span.moved move) := by
  rw [moved_eq_mapSpans, tooDeep?_map_mapSpans]

theorem assemble_map_moved (items : List Item) :
    assemble (items.map (moved move)) =
      ((assemble items).1.map (OptionUse.moved move),
        (assemble items).2.map (CommandUse.moved move)) := by
  rw [moved_eq_mapSpans, CommandUse.moved_eq_mapSpans, assemble_map_mapSpans]
  rfl

end Item

end Reading

end CommandLine
