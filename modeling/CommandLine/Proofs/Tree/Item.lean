import CommandLine.Tree.Parse

/-!
# Items of a command line

Behind the program name a command line is a list of items: commands and options
with their values.  Reading tokens as items settles which token is the value of
an option; reading items as a tree settles which command owns which item.

A command takes the commands behind it until an option comes.  Options belong
to the command before them, and the command after an option stands beside the
command that owns the option.  So only a command without options has commands
below it (`below_or_options`).

A tree is not read this way, but its reader comes to the same result, and items
are easier to reason about.
-/

set_option autoImplicit false

namespace CommandLine

inductive Item where
  | command (name : String) (nameSpan : Span)
  | option (option : OptionUse)
  deriving DecidableEq, Repr

def OptionUse.valueFrom? (style : ValueStyle) (option : OptionUse) (next : Token) :
    Option Value :=
  match style, option.value? with
  | .nextToken, none => next.asValue?
  | _, _ => none

namespace Item

/-- The items that some tokens form, up to the first token that is out of
place, and that token. -/
def ofTokens (style : ValueStyle) : List Token → List Item × Option Token
  | [] => ([], none)
  | ⟨.command name, span⟩ :: rest =>
      let (items, misplaced) := ofTokens style rest
      (.command name span :: items, misplaced)
  | [⟨.option given, _⟩] => ([.option given], none)
  | ⟨.option given, _⟩ :: next :: rest =>
      match given.valueFrom? style next with
      | some value =>
          let (items, misplaced) := ofTokens style rest
          (.option { given with value? := some value } :: items, misplaced)
      | none =>
          let (items, misplaced) := ofTokens style (next :: rest)
          (.option given :: items, misplaced)
  | token :: _ => ([], some token)

def startWithOption : List Item → Bool
  | .option _ :: _ => true
  | _ => false

def afterOptions : List Item → List Item
  | .option _ :: rest => afterOptions rest
  | items => items

/-- The name of the first command that lies deeper than a limit, where the
first command of the items lies at `depth`.  A command without options has the
next command below it, any other one beside it. -/
def tooDeep? (limit : Nat) : Nat → List Item → Option Span
  | _, [] => none
  | depth, .option _ :: rest => tooDeep? limit depth rest
  | depth, .command _ nameSpan :: rest =>
      if limit < depth then some nameSpan
      else tooDeep? limit (if startWithOption rest then depth else depth + 1) rest

/-- The options at the start of some items, and the commands that the other
items form. -/
def assemble : List Item → List OptionUse × List CommandUse
  | [] => ([], [])
  | .option given :: rest =>
      let (options, commands) := assemble rest
      (given :: options, commands)
  | .command name nameSpan :: rest =>
      match assemble rest with
      | ([], below) => ([], [⟨name, nameSpan, below, []⟩])
      | (options, beside) => ([], ⟨name, nameSpan, [], options⟩ :: beside)

theorem ofTokens_option {style : ValueStyle} {given : OptionUse} {span : Span}
    {rest : List Token} (alone : ∀ next ∈ rest.head?, given.valueFrom? style next = none) :
    ofTokens style (⟨.option given, span⟩ :: rest) =
      (.option given :: (ofTokens style rest).1, (ofTokens style rest).2) := by
  cases rest with
  | nil => rfl
  | cons next more => simp [ofTokens, alone next rfl]

theorem ofTokens_taken {style : ValueStyle} {given : OptionUse} {next : Token} {value : Value}
    (taken : given.valueFrom? style next = some value) (span : Span) (rest : List Token) :
    ofTokens style (⟨.option given, span⟩ :: next :: rest) =
      (.option { given with value? := some value } :: (ofTokens style rest).1,
        (ofTokens style rest).2) := by
  simp [ofTokens, taken]

theorem token_of_head?_ofTokens {style : ValueStyle} {token : Token} {rest : List Token}
    {name : String} {nameSpan : Span}
    (first : .command name nameSpan ∈ (ofTokens style (token :: rest)).1.head?) :
    token = ⟨.command name, nameSpan⟩ := by
  rcases token with ⟨kind, span⟩
  cases kind with
  | program literal => cases first
  | value literal => cases first
  | command other =>
      cases first
      rfl
  | option given =>
      cases rest with
      | nil => cases first
      | cons next more =>
          rw [ofTokens] at first
          split at first <;> cases first

theorem assemble_option (given : OptionUse) (rest : List Item) :
    assemble (.option given :: rest) = (given :: (assemble rest).1, (assemble rest).2) := rfl

theorem options_assemble_eq_nil_iff (items : List Item) :
    (assemble items).1 = [] ↔ startWithOption items = false := by
  cases items with
  | nil => simp [assemble, startWithOption]
  | cons item rest =>
      cases item with
      | option given => simp [assemble, startWithOption]
      | command name nameSpan =>
          rw [assemble]
          split <;> simp [startWithOption]

theorem assemble_command (name : String) (nameSpan : Span) (rest : List Item) :
    assemble (.command name nameSpan :: rest) =
      if startWithOption rest then
        ([], ⟨name, nameSpan, [], (assemble rest).1⟩ :: (assemble rest).2)
      else ([], [⟨name, nameSpan, (assemble rest).2, []⟩]) := by
  have alone := options_assemble_eq_nil_iff rest
  rw [assemble]
  split
  · rename_i below found
    have stops : startWithOption rest = false := alone.1 (by rw [found])
    simp [stops, found]
  · rename_i options beside nonempty found
    have starts : startWithOption rest = true := by
      rw [← Bool.not_eq_false, ← alone, found]
      exact nonempty
    simp [starts, found]

/-- Each command that items form has commands below it or options, not both. -/
theorem below_or_options (items : List Item) :
    ∀ command ∈ (assemble items).2, command.commands = [] ∨ command.options = [] := by
  fun_induction assemble items with
  | case1 => simp
  | case2 given rest options commands found ih => simpa [found] using ih
  | case3 name nameSpan rest below found ih => simp
  | case4 name nameSpan rest options beside _ found ih =>
      rw [found] at ih
      simpa using ih

/-- No command of some items lies too deep if what they form is not too deep. -/
theorem tooDeep?_eq_none_iff (limit depth : Nat) (items : List Item) :
    tooDeep? limit depth items = none ↔
      ((assemble items).2 ≠ [] →
        depth + CommandUse.depthAll (assemble items).2 ≤ limit + 1) := by
  induction items generalizing depth with
  | nil => simp [tooDeep?, assemble]
  | cons item rest ih =>
      cases item with
      | option given => exact ih depth
      | command name nameSpan =>
          have empty : (assemble rest).2 = [] → CommandUse.depthAll (assemble rest).2 = 0 := by
            intro none
            rw [none]
            rfl
          rw [tooDeep?, assemble_command]
          by_cases deep : limit < depth
          · rw [if_pos deep]
            split <;> simp [CommandUse.depthAll, CommandUse.depth] <;> omega
          · rw [if_neg deep, ih]
            by_cases none : (assemble rest).2 = []
            · have flat := empty none
              split <;> simp [CommandUse.depthAll, CommandUse.depth, none] <;> omega
            · split <;> simp [CommandUse.depthAll, CommandUse.depth, none] <;> omega

theorem tooDeep?_one_eq_none_iff (limit : Nat) (items : List Item) :
    tooDeep? limit 1 items = none ↔ CommandUse.depthAll (assemble items).2 ≤ limit := by
  rw [tooDeep?_eq_none_iff]
  by_cases flat : (assemble items).2 = []
  · simp [flat, CommandUse.depthAll]
  · simp only [flat, ne_eq, not_false_iff, forall_const]
    omega

end Item

/-! ## What lies ahead -/

structure Ahead where
  items : List Item
  stop? : Option SyntaxError

/-- The items ahead end at a token that is out of place, or at a lexical error. -/
def Lexed.ahead (style : ValueStyle) (lexed : Lexed) : Ahead :=
  let (items, misplaced) := Item.ofTokens style lexed.tokens
  ⟨items, (misplaced.map (SyntaxError.unexpected "a command or an option")).or
    (lexed.error?.map SyntaxError.lexical)⟩

def Ahead.push (item : Item) (ahead : Ahead) : Ahead :=
  ⟨item :: ahead.items, ahead.stop?⟩

namespace Lexed

variable {style : ValueStyle} {span : Span} {tokens : List Token} {error? : Option LexError}

theorem ahead_nil : (⟨[], error?⟩ : Lexed).ahead style = ⟨[], error?.map .lexical⟩ := rfl

theorem ahead_option {given : OptionUse}
    (alone : ∀ next ∈ tokens.head?, given.valueFrom? style next = none) :
    (⟨⟨.option given, span⟩ :: tokens, error?⟩ : Lexed).ahead style =
      ((⟨tokens, error?⟩ : Lexed).ahead style).push (.option given) := by
  cases tokens with
  | nil => rfl
  | cons next rest => simp [ahead, Item.ofTokens, alone next rfl, Ahead.push]

theorem ahead_option_value {given : OptionUse} {next : Token} {value : Value}
    (taken : given.valueFrom? style next = some value) :
    (⟨⟨.option given, span⟩ :: next :: tokens, error?⟩ : Lexed).ahead style =
      ((⟨tokens, error?⟩ : Lexed).ahead style).push
        (.option { given with value? := some value }) := by
  simp [ahead, Item.ofTokens, taken, Ahead.push]

end Lexed

/-- A result, unless an error comes first: a command too deep is met before the
error that stops the items. -/
def Ahead.settle {α : Type} (limit depth : Nat) (ahead : Ahead) (result : α) :
    Except SyntaxError α :=
  match Item.tooDeep? limit depth ahead.items, ahead.stop? with
  | some nameSpan, _ => .error (.nestingTooDeep limit nameSpan)
  | none, some error => .error error
  | none, none => .ok result

/-- A result, and what is ahead behind the options at the start, unless an error
comes first. -/
def Ahead.leave {α : Type} (ahead : Ahead) (result : α) : Except SyntaxError (α × Ahead) :=
  match Item.afterOptions ahead.items, ahead.stop? with
  | [], some error => .error error
  | rest, stop? => .ok (result, ⟨rest, stop?⟩)

namespace Ahead

variable {α : Type}

theorem settle_push_command (limit depth : Nat) (name : String) (nameSpan : Span)
    (ahead : Ahead) (result : α) :
    (ahead.push (.command name nameSpan)).settle limit depth result =
      if limit < depth then .error (.nestingTooDeep limit nameSpan)
      else ahead.settle limit
        (if Item.startWithOption ahead.items then depth else depth + 1) result := by
  by_cases deep : limit < depth
  · simp [settle, push, Item.tooDeep?, deep]
  · simp [settle, push, Item.tooDeep?, deep]

/-- Whether there is an error does not depend on the result. -/
theorem settle_cases (limit depth : Nat) (ahead : Ahead) :
    (∃ error, ∀ {β : Type} (result : β), ahead.settle limit depth result = .error error) ∨
      ∀ {β : Type} (result : β), ahead.settle limit depth result = .ok result := by
  unfold settle
  split
  · exact .inl ⟨_, fun _ => rfl⟩
  · exact .inl ⟨_, fun _ => rfl⟩
  · exact .inr fun _ => rfl

theorem leave_push_option (given : OptionUse) (ahead : Ahead) (result : α) :
    (ahead.push (.option given)).leave result = ahead.leave result := rfl

theorem leave_push_command (name : String) (nameSpan : Span) (ahead : Ahead) (result : α) :
    (ahead.push (.command name nameSpan)).leave result =
      .ok (result, ahead.push (.command name nameSpan)) := rfl

/-- Leaving the options at the start behind does not change what follows. -/
theorem leave_cases (ahead : Ahead) (result : α) :
    (∃ error, ahead.leave result = .error error ∧
      ∀ {β : Type} (limit depth : Nat) (other : β),
        ahead.settle limit depth other = .error error) ∨
    ∃ behind, ahead.leave result = .ok (result, behind) ∧
      Item.startWithOption behind.items = false ∧
      Item.assemble behind.items = ([], (Item.assemble ahead.items).2) ∧
      ∀ {β : Type} (limit depth : Nat) (other : β),
        ahead.settle limit depth other = behind.settle limit depth other := by
  rcases ahead with ⟨items, stop?⟩
  induction items with
  | nil =>
      cases stop? with
      | none => exact .inr ⟨⟨[], none⟩, rfl, rfl, rfl, fun _ _ _ => rfl⟩
      | some error => exact .inl ⟨error, rfl, fun _ _ _ => rfl⟩
  | cons item rest ih =>
      cases item with
      | option given => exact ih
      | command name nameSpan =>
          refine .inr ⟨⟨.command name nameSpan :: rest, stop?⟩, rfl, rfl, ?_, fun _ _ _ => rfl⟩
          exact Prod.ext ((Item.options_assemble_eq_nil_iff _).2 rfl) rfl

end Ahead

def Tree.ofLexed (settings : Settings) (source : String) : Lexed → Except SyntaxError Tree
  | ⟨[], some error⟩ => .error (.lexical error)
  | ⟨[], none⟩ =>
      .error (.unexpectedToken "a program name" "end of input"
        (.point (Text.bytes source.toList)))
  | ⟨⟨.program literal, span⟩ :: rest, error?⟩ =>
      let ahead := Lexed.ahead settings.valueStyle ⟨rest, error?⟩
      let (options, commands) := Item.assemble ahead.items
      ahead.settle settings.maxDepth 1 ⟨source, ⟨literal, span⟩, commands, options⟩
  | ⟨token :: _, _⟩ => .error (.unexpected "a program name" token)

end CommandLine
