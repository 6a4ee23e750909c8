import CommandLine.Proofs.Tree.Item
import CommandLine.Proofs.Tree.Reader

/-!
# The descent of a reader

A reader descends from command to command and returns when one is closed, while
items are assembled from the last to the first.  Both give the same tree, or the
same error (`parse_eq_ofLexed`).  The descent shows why: an open command
either takes options, and then leaves the next command to those around it, or it
takes commands, and then everything that is left.
-/

set_option autoImplicit false

namespace CommandLine

/-- Without options only the end closes a command. -/
theorem Token.closes_nil (token : Token) : Token.closes [] (some token) = false := by
  rcases token with ⟨kind, span⟩
  cases kind <;> rfl

namespace Reader

variable {settings : Settings}

def ahead (style : ValueStyle) (reader : Reader) : Ahead :=
  reader.remaining.ahead style

theorem ahead_eq {reader : Reader} {lexed : Lexed} (style : ValueStyle)
    (same : reader.remaining = lexed) : reader.ahead style = lexed.ahead style := by
  rw [ahead, same]

def outcome {α : Type} {reader : Reader} (style : ValueStyle)
    (result : Except SyntaxError (Taken α reader)) : Except SyntaxError (α × Ahead) :=
  result.map fun taken => (taken.found, taken.after.ahead style)

@[simp]
theorem outcome_error {α : Type} {reader : Reader} (style : ValueStyle) (error : SyntaxError) :
    outcome style (.error error : Except SyntaxError (Taken α reader)) = .error error := rfl

theorem exists_of_outcome_eq_ok {α : Type} {reader : Reader} {style : ValueStyle}
    {result : Except SyntaxError (Taken α reader)} {found : α} {behind : Ahead}
    (read : outcome style result = .ok (found, behind)) :
    ∃ taken, result = .ok taken ∧ taken.found = found ∧ taken.after.ahead style = behind := by
  cases result with
  | error error => cases read
  | ok taken =>
      cases read
      exact ⟨taken, rfl, rfl, rfl⟩

theorem eq_of_outcome_eq_error {α : Type} {reader : Reader} {style : ValueStyle}
    {result : Except SyntaxError (Taken α reader)} {error : SyntaxError}
    (read : outcome style result = .error error) : result = .error error := by
  cases result with
  | error error =>
      cases read
      rfl
  | ok taken => cases read

@[simp]
theorem outcome_from {α : Type} {later reader : Reader} (style : ValueStyle)
    (size_le : later.size ≤ reader.size) (result : Except SyntaxError (Taken α later)) :
    outcome style (result.map (Taken.from size_le)) = outcome style result := by
  cases result <;> rfl

/-! ## Options -/

theorem value?_cases (reader : Reader) :
    (∃ error, reader.value? = .error (.lexical error) ∧ reader.remaining = ⟨[], some error⟩) ∨
    (∃ taken, reader.value? = .ok taken ∧ taken.found = none ∧
      taken.after.remaining = reader.remaining ∧
      ∀ next ∈ reader.remaining.tokens.head?, next.asValue? = none) ∨
    ∃ taken next value, reader.value? = .ok taken ∧ taken.found = some value ∧
      next.asValue? = some value ∧ reader.remaining =
        ⟨next :: taken.after.remaining.tokens, taken.after.remaining.error?⟩ := by
  cases reader.sight with
  | failed error ahead look take =>
      refine .inl ⟨error, ?_, ahead⟩
      unfold value?
      split
      · simp_all
      · simp_all
  | ended looked after ahead look still take =>
      right; left
      unfold value?
      split
      · simp_all
      · rename_i next? looked' look'
        rw [look] at look'
        cases look'
        exact ⟨_, rfl, rfl, by rw [ahead, still], by simp [ahead]⟩
  | token token looked after ahead look still take takeLooked =>
      right
      unfold value?
      split
      · simp_all
      · rename_i next? looked' look'
        rw [look] at look'
        cases look'
        cases sort : token.asValue? with
        | none =>
            left
            simp only [Option.bind_some]
            split
            · exact ⟨_, rfl, rfl, still, by simp [ahead, sort]⟩
            · simp_all
        | some value =>
            right
            simp only [Option.bind_some]
            split
            · simp_all
            · split
              · simp_all
              · rename_i next? after' take'
                rw [takeLooked] at take'
                cases take'
                exact ⟨_, token, value, rfl, by simp_all, sort, ahead⟩

/-- An option takes its value from the next token exactly when items say so. -/
theorem option_cases (settings : Settings) (given : OptionUse) (span : Span) (reader : Reader) :
    let whole : Lexed := ⟨⟨.option given, span⟩ :: reader.remaining.tokens, reader.remaining.error?⟩
    (∃ error, reader.option settings given = .error error ∧
      whole.ahead settings.valueStyle = ⟨[.option given], some error⟩) ∨
    ∃ taken, reader.option settings given = .ok taken ∧
      whole.ahead settings.valueStyle =
        (taken.after.ahead settings.valueStyle).push (.option taken.found) := by
  intro whole
  cases bare : given.value? with
  | some value =>
      right
      refine ⟨⟨given, reader, Nat.le_refl _⟩, by simp [option, bare], ?_⟩
      apply Lexed.ahead_option
      intro next _
      simp [OptionUse.valueFrom?, bare]
  | none =>
      cases style : settings.valueStyle with
      | attached =>
          right
          refine ⟨⟨given, reader, Nat.le_refl _⟩, by simp [option, bare, style], ?_⟩
          exact Lexed.ahead_option fun next _ => rfl
      | nextToken =>
          have looks : reader.option settings given =
              reader.value?.map (Taken.map fun value? => { given with value? }) := by
            simp [option, bare, style]
          obtain ⟨error, read, ahead⟩ | ⟨taken, read, found, still, none⟩ |
            ⟨taken, next, value, read, found, sort, ahead⟩ := reader.value?_cases
          · left
            refine ⟨.lexical error, by rw [looks, read]; rfl, ?_⟩
            simp only [whole, ahead]
            rfl
          · right
            refine ⟨_, by rw [looks, read]; rfl, ?_⟩
            have same : ({ given with value? := taken.found } : OptionUse) = given := by
              rw [found, ← bare]
            simp only [whole, Reader.ahead, Taken.map, still, same]
            apply Lexed.ahead_option
            intro next first
            simp [OptionUse.valueFrom?, bare, none next first]
          · right
            refine ⟨_, by rw [looks, read]; rfl, ?_⟩
            simp only [whole, ahead, Taken.map, found]
            apply Lexed.ahead_option_value
            simp [OptionUse.valueFrom?, bare, sort]

/-! ## Steps of the descent -/

section Steps

variable {reader looked after : Reader} {depth : Nat} {commands : List CommandUse}
  {options : List OptionUse} {style : ValueStyle}

theorem parts_failed {error : LexError} (look : reader.peek = .error error) :
    reader.parts settings depth commands options = .error (.lexical error) := by
  rw [parts]
  split <;> simp_all

theorem parts_closed {next? : Option Token} (look : reader.peek = .ok (next?, looked))
    (closes : Token.closes options next? = true) :
    outcome style (reader.parts settings depth commands options) =
      .ok ((commands, options), looked.ahead style) := by
  rw [parts]
  split
  · simp_all
  · rename_i next? looked' look'
    rw [look] at look'
    cases look'
    rw [if_pos closes]
    rfl

theorem parts_open {token : Token} (look : reader.peek = .ok (some token, looked))
    (take : looked.advance = .ok (some token, after))
    (stays : Token.closes options (some token) = false) :
    outcome style (reader.parts settings depth commands options) =
      match after.part settings (depth + 1) commands options token with
      | .error error => .error error
      | .ok taken =>
          outcome style (taken.after.parts settings depth taken.found.1 taken.found.2) := by
  rw [parts]
  split
  · simp_all
  · rename_i next? looked' look'
    rw [look] at look'
    cases look'
    rw [if_neg (by simp [stays])]
    split
    · simp_all
    · simp_all
    · rename_i token' after' take'
      rw [take] at take'
      cases take'
      split <;> simp_all

theorem allParts_failed {error : LexError} (take : reader.advance = .error error) :
    reader.allParts settings commands options = .error (.lexical error) := by
  rw [allParts]
  split <;> simp_all

theorem allParts_ended (take : reader.advance = .ok (none, after)) :
    reader.allParts settings commands options = .ok (commands, options) := by
  rw [allParts]
  split <;> simp_all

theorem allParts_token {token : Token} (take : reader.advance = .ok (some token, after)) :
    reader.allParts settings commands options =
      match after.part settings 1 commands options token with
      | .error error => .error error
      | .ok taken => taken.after.allParts settings taken.found.1 taken.found.2 := by
  rw [allParts]
  split
  · simp_all
  · simp_all
  · rename_i token' after' take'
    rw [take] at take'
    cases take'
    split <;> simp_all

theorem part_option {given : OptionUse} {span : Span} {taken : Taken OptionUse reader}
    (read : reader.option settings given = .ok taken) :
    reader.part settings depth commands options ⟨.option given, span⟩ =
      .ok (taken.map fun option => (commands, options ++ [option])) := by
  rw [part]
  dsimp only
  rw [read]
  rfl

end Steps

/-! ## Options of a command -/

/-- An open command with options, or with options ahead, takes these and no more. -/
theorem outcome_parts_options (settings : Settings) (depth : Nat) (commands : List CommandUse)
    (options : List OptionUse) (reader : Reader)
    (given : options ≠ [] ∨ Item.startWithOption (reader.ahead settings.valueStyle).items = true) :
    outcome settings.valueStyle (reader.parts settings depth commands options) =
      (reader.ahead settings.valueStyle).leave
        (commands, options ++ (Item.assemble (reader.ahead settings.valueStyle).items).1) := by
  induction size : reader.size using Nat.strongRecOn generalizing reader options with
  | ind bound ih =>
      cases reader.sight with
      | failed error ahead look take =>
          rw [parts_failed look, ahead_eq _ ahead]
          rfl
      | ended looked after ahead look still take =>
          rw [parts_closed look rfl, ahead_eq _ still, ahead_eq _ ahead]
          simp [Lexed.ahead_nil, Ahead.leave, Item.afterOptions, Item.assemble]
      | token token looked after ahead look still take takeLooked =>
          rcases token with ⟨kind, span⟩
          cases kind with
          | program literal =>
              rw [parts_open look takeLooked rfl, ahead_eq _ ahead, part]
              rfl
          | value literal =>
              rw [parts_open look takeLooked rfl, ahead_eq _ ahead, part]
              rfl
          | command name =>
              have same : reader.ahead settings.valueStyle =
                  (after.ahead settings.valueStyle).push (.command name span) :=
                ahead_eq _ ahead
              rw [same] at given
              have closes : Token.closes options (some ⟨.command name, span⟩) = true := by
                simpa [Token.closes, Ahead.push, Item.startWithOption] using given
              have none : (Item.assemble ((after.ahead settings.valueStyle).push
                  (.command name span)).items).1 = [] :=
                (Item.options_assemble_eq_nil_iff _).2 rfl
              rw [parts_closed look closes, ahead_eq _ still, ← Reader.ahead, same,
                Ahead.leave_push_command, none, List.append_nil]
          | option use =>
              have shorter := size_lt_of_advance take
              rw [parts_open look takeLooked rfl, ahead_eq _ ahead]
              obtain ⟨error, read, whole⟩ | ⟨taken, read, whole⟩ :=
                after.option_cases settings use span
              · rw [part, whole]
                simp only [read]
                rfl
              · have left := taken.size_le
                have below := ih taken.after.size (by omega) (options ++ [taken.found])
                  taken.after (.inl (by simp)) rfl
                rw [part_option read, whole, Ahead.leave_push_option]
                simp [Taken.map, below, Ahead.push, Item.assemble_option]

/-! ## Commands of a command -/

theorem outcome_command (settings : Settings) (style : ValueStyle) (depth : Nat)
    (name : String) (nameSpan : Span) (reader : Reader) :
    outcome style (reader.command settings depth name nameSpan) =
      if settings.maxDepth < depth then .error (.nestingTooDeep settings.maxDepth nameSpan)
      else (outcome style (reader.parts settings depth [] [])).map fun found =>
        (⟨name, nameSpan, found.1.1, found.1.2⟩, found.2) := by
  rw [command]
  split
  · rfl
  · cases reader.parts settings depth [] [] <;> rfl

/-- What an open command takes if only commands can come: everything. -/
def TakesAll (settings : Settings) (depth : Nat) (commands : List CommandUse)
    (reader : Reader) : Prop :=
  Item.startWithOption (reader.ahead settings.valueStyle).items = false →
    outcome settings.valueStyle (reader.parts settings depth commands []) =
      (reader.ahead settings.valueStyle).settle settings.maxDepth (depth + 1)
        ((commands ++ (Item.assemble (reader.ahead settings.valueStyle).items).2, []), ⟨[], none⟩)

/-- A command is the first of those that the items ahead form, and the others are
formed by what it leaves. -/
theorem command_cases {depth : Nat} (name : String) (nameSpan : Span) {reader : Reader}
    (takesAll : TakesAll settings depth [] reader) :
    let whole := (reader.ahead settings.valueStyle).push (.command name nameSpan)
    (∃ error, reader.command settings depth name nameSpan = .error error ∧
      ∀ {β : Type} (result : β), whole.settle settings.maxDepth depth result = .error error) ∨
    ∃ taken, reader.command settings depth name nameSpan = .ok taken ∧
      Item.startWithOption (taken.after.ahead settings.valueStyle).items = false ∧
      Item.assemble whole.items = ([], taken.found ::
        (Item.assemble (taken.after.ahead settings.valueStyle).items).2) ∧
      ∀ {β : Type} (result : β), whole.settle settings.maxDepth depth result =
        (taken.after.ahead settings.valueStyle).settle settings.maxDepth depth result := by
  intro whole
  have read := outcome_command settings settings.valueStyle depth name nameSpan reader
  by_cases deep : settings.maxDepth < depth
  · left
    rw [if_pos deep] at read
    refine ⟨_, eq_of_outcome_eq_error read, ?_⟩
    intro β result
    rw [Ahead.settle_push_command, if_pos deep]
  · rw [if_neg deep] at read
    cases starts : Item.startWithOption (reader.ahead settings.valueStyle).items with
    | true =>
        -- the options of the command are next, and it leaves the rest
        rw [outcome_parts_options settings depth [] [] reader (.inr starts)] at read
        obtain ⟨error, leave, settle⟩ | ⟨behind, leave, stops, beside, settle⟩ :=
          Ahead.leave_cases (reader.ahead settings.valueStyle)
            (([] : List CommandUse),
              [] ++ (Item.assemble (reader.ahead settings.valueStyle).items).1)
        · left
          rw [leave] at read
          refine ⟨error, eq_of_outcome_eq_error read, ?_⟩
          intro β result
          rw [Ahead.settle_push_command, if_neg deep, settle]
        · right
          rw [leave] at read
          obtain ⟨taken, ok, found, after⟩ := exists_of_outcome_eq_ok read
          refine ⟨taken, ok, by rw [after, stops], ?_, ?_⟩
          · rw [after, found, beside]
            simp only [whole, Ahead.push, Item.assemble_command, starts]
            rfl
          · intro β result
            rw [Ahead.settle_push_command, if_neg deep, starts, settle, after]
            rfl
    | false =>
        rw [takesAll starts] at read
        obtain ⟨error, settle⟩ | settle := Ahead.settle_cases settings.maxDepth (depth + 1)
          (reader.ahead settings.valueStyle)
        · left
          rw [settle] at read
          refine ⟨error, eq_of_outcome_eq_error read, ?_⟩
          intro β result
          rw [Ahead.settle_push_command, if_neg deep, starts]
          exact settle result
        · right
          rw [settle] at read
          obtain ⟨taken, ok, found, after⟩ := exists_of_outcome_eq_ok read
          refine ⟨taken, ok, by rw [after]; rfl, ?_, ?_⟩
          · rw [after, found]
            simp only [whole, Ahead.push, Item.assemble_command, starts]
            rfl
          · intro β result
            rw [Ahead.settle_push_command, if_neg deep, starts, after]
            exact settle result

/-- A part is the first of those that the items ahead form, and the others are
formed by what it leaves. -/
theorem part_cases {depth : Nat} (commands : List CommandUse) (options : List OptionUse)
    (token : Token) {reader : Reader} (takesAll : TakesAll settings depth [] reader) :
    let whole : Ahead := (⟨token :: reader.remaining.tokens, reader.remaining.error?⟩ : Lexed).ahead
      settings.valueStyle
    (∃ error, reader.part settings depth commands options token = .error error ∧
      ∀ {β : Type} (result : β), whole.settle settings.maxDepth depth result = .error error) ∨
    ∃ taken, reader.part settings depth commands options token = .ok taken ∧
      taken.found.1 ++ (Item.assemble (taken.after.ahead settings.valueStyle).items).2 =
        commands ++ (Item.assemble whole.items).2 ∧
      taken.found.2 ++ (Item.assemble (taken.after.ahead settings.valueStyle).items).1 =
        options ++ (Item.assemble whole.items).1 ∧
      ∀ {β : Type} (result : β), whole.settle settings.maxDepth depth result =
        (taken.after.ahead settings.valueStyle).settle settings.maxDepth depth result := by
  intro whole
  rcases token with ⟨kind, span⟩
  cases kind with
  | program literal => exact .inl ⟨_, by rw [part], fun _ => rfl⟩
  | value literal => exact .inl ⟨_, by rw [part], fun _ => rfl⟩
  | option given =>
      obtain ⟨error, read, same⟩ | ⟨taken, read, same⟩ := reader.option_cases settings given span
      · refine .inl ⟨error, ?_, ?_⟩
        · rw [part]
          simp only [read]
          rfl
        · intro β result
          simp only [whole, same]
          rfl
      · refine .inr ⟨_, part_option read, ?_, ?_, ?_⟩
        · simp only [whole, same]
          rfl
        · simp [whole, same, Taken.map, Ahead.push, Item.assemble_option]
        · intro β result
          simp only [whole, same]
          rfl
  | command name =>
      have same : whole = (reader.ahead settings.valueStyle).push (.command name span) := rfl
      obtain ⟨error, read, settle⟩ | ⟨taken, read, stops, beside, settle⟩ :=
        command_cases name span takesAll
      · refine .inl ⟨error, ?_, settle⟩
        rw [part]
        simp only [read]
        rfl
      · have none := (Item.options_assemble_eq_nil_iff _).2 stops
        refine .inr ⟨taken.map fun command => (commands ++ [command], options), ?_, ?_, ?_, settle⟩
        · rw [part]
          simp only [read]
          rfl
        · rw [same, beside]
          simp [Taken.map]
        · rw [same, beside]
          simp [Taken.map, none]

theorem takesAll (settings : Settings) (depth : Nat) (commands : List CommandUse)
    (reader : Reader) : TakesAll settings depth commands reader := by
  induction size : reader.size using Nat.strongRecOn generalizing reader depth commands with
  | ind bound ih =>
      intro stops
      cases reader.sight with
      | failed error ahead look take =>
          rw [parts_failed look, ahead_eq _ ahead]
          rfl
      | ended looked after ahead look still take =>
          rw [parts_closed look rfl, ahead_eq _ still, ahead_eq _ ahead]
          simp [Lexed.ahead_nil, Ahead.settle, Item.tooDeep?, Item.assemble]
      | token token looked after ahead look still take takeLooked =>
          have shorter := size_lt_of_advance take
          have inside := ih after.size (by omega) (depth + 1) [] after rfl
          rw [ahead_eq _ ahead, ← Item.options_assemble_eq_nil_iff] at stops
          rw [parts_open look takeLooked (Token.closes_nil token), ahead_eq _ ahead]
          obtain ⟨error, read, settle⟩ | ⟨taken, read, beside, given, settle⟩ :=
            part_cases commands [] token inside
          · simp only [read, settle]
          · -- no option was taken, and none is next
            rw [stops, List.append_nil, List.append_eq_nil_iff] at given
            have left := taken.size_le
            have rest := ih taken.after.size (by omega) depth taken.found.1 taken.after rfl
              ((Item.options_assemble_eq_nil_iff _).1 given.2)
            simp only [read, given.1, rest, beside, settle]

/-! ## Whole lines -/

theorem allParts_eq (settings : Settings) (commands : List CommandUse) (options : List OptionUse)
    (reader : Reader) :
    reader.allParts settings commands options =
      (reader.ahead settings.valueStyle).settle settings.maxDepth 1
        (commands ++ (Item.assemble (reader.ahead settings.valueStyle).items).2,
          options ++ (Item.assemble (reader.ahead settings.valueStyle).items).1) := by
  induction size : reader.size using Nat.strongRecOn generalizing reader commands options with
  | ind bound ih =>
      cases reader.sight with
      | failed error ahead look take =>
          rw [allParts_failed take, ahead_eq _ ahead]
          rfl
      | ended looked after ahead look still take =>
          rw [allParts_ended take, ahead_eq _ ahead]
          simp [Lexed.ahead_nil, Ahead.settle, Item.tooDeep?, Item.assemble]
      | token token looked after ahead look still take takeLooked =>
          have shorter := size_lt_of_advance take
          rw [allParts_token take, ahead_eq _ ahead]
          obtain ⟨error, read, settle⟩ | ⟨taken, read, beside, given, settle⟩ :=
            part_cases commands options token (takesAll settings 1 [] after)
          · simp only [read, settle]
          · have left := taken.size_le
            have rest := ih taken.after.size (by omega) taken.found.1 taken.found.2 taken.after rfl
            simp only [read, rest, beside, given, settle]

end Reader

/-- The reader of trees assembles the items of its source. -/
theorem Tree.parse_eq_ofLexed (settings : Settings) (source : String) :
    parse settings source = ofLexed settings source (lex settings.quote source) := by
  rw [← Reader.remaining_ofSource]
  unfold parse
  cases (Reader.ofSource settings.quote source).sight with
  | failed error ahead look take =>
      rw [ahead, take]
      rfl
  | ended looked after ahead look still take =>
      rw [ahead, take]
      rfl
  | token token looked after ahead look still take takeLooked =>
      rw [ahead, take]
      rcases token with ⟨kind, span⟩
      cases kind with
      | program literal =>
          dsimp only [ofLexed]
          rw [Reader.allParts_eq]
          obtain ⟨error, settle⟩ | settle := Ahead.settle_cases settings.maxDepth 1
            (after.ahead settings.valueStyle)
          · rw [settle]
            exact (settle _).symm
          · rw [settle]
            exact (settle _).symm
      | command name => rfl
      | option given => rfl
      | value literal => rfl

end CommandLine
