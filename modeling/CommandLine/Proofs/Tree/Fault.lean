import CommandLine.Proofs.Tree.Tokens

/-!
# Faults of tokens

Whether a token is at fault can be told from the tokens in front of it, without a
tree: an option takes the token behind it or not, and a command lies one deeper than
the command that it follows at once.  What the items of some tokens report is the
first fault among them: `firstFault?_eq`.
-/

set_option autoImplicit false

namespace CommandLine

/-- Whether a token is an option that takes the token behind it, if that can be a value. -/
def Token.takesNext (style : ValueStyle) (token : Token) : Bool :=
  match style, token.kind with
  | .nextToken, .option given => given.value?.isNone
  | _, _ => false

def Token.isCommand (token : Token) : Bool :=
  match token.kind with
  | .command _ => true
  | _ => false

/-! ## Places among some tokens -/

section Places

variable (style : ValueStyle) (tokens : List Token)

def takenAt : Nat → Bool
  | 0 => false
  | before + 1 => tokens[before]?.any (Token.takesNext style)

def commandAt (index : Nat) : Bool :=
  !takenAt style tokens index && tokens[index]?.any Token.isCommand

/-- How deep a command at an index lies.  One that follows a command at once lies below
it, any other beside the command before it, or next to the program. -/
def depthAt (index : Nat) : Nat :=
  (List.range index).countP (fun before =>
    commandAt style tokens before && commandAt style tokens (before + 1)) + 1

theorem depthAt_succ (index : Nat) :
    depthAt style tokens (index + 1) =
      depthAt style tokens index +
        if commandAt style tokens index && commandAt style tokens (index + 1) then 1 else 0 := by
  simp only [depthAt, List.range_succ, List.countP_append, List.countP_singleton]
  omega

theorem depthAt_succ_of_not_command {index : Nat} (other : commandAt style tokens index = false) :
    depthAt style tokens (index + 1) = depthAt style tokens index := by
  rw [depthAt_succ, other]
  rfl

end Places

/-! ## Faults of single tokens -/

def faultAt (settings : Settings) (tokens : List Token) (index : Nat) : Option SyntaxError :=
  match tokens[index]? with
  | none => none
  | some token =>
      match token.kind with
      | .option _ => none
      | .program _ => some (.unexpected "a command or an option" token)
      | .value _ =>
          if takenAt settings.valueStyle tokens index then none
          else some (.unexpected "a command or an option" token)
      | .command _ =>
          if takenAt settings.valueStyle tokens index then none
          else if settings.maxDepth < depthAt settings.valueStyle tokens index then
            some (.nestingTooDeep settings.maxDepth token.span)
          else none

def firstFault? (settings : Settings) (tokens : List Token) (start : Nat) : Option SyntaxError :=
  (List.range' start (tokens.length - start)).findSome? (faultAt settings tokens)

section Faults

variable {settings : Settings} {style : ValueStyle} {tokens rest : List Token} {start : Nat}
  {token : Token}

theorem getElem?_of_drop (ahead : tokens.drop start = token :: rest) :
    tokens[start]? = some token ∧ tokens.drop (start + 1) = rest := by
  constructor
  · rw [← List.head?_drop, ahead]
    rfl
  · rw [← List.tail_drop, ahead]
    rfl

theorem takenAt_succ (found : tokens[start]? = some token) :
    takenAt style tokens (start + 1) = token.takesNext style := by
  simp [takenAt, found]

theorem commandAt_eq (found : tokens[start]? = some token) :
    commandAt style tokens start = (!takenAt style tokens start && token.isCommand) := by
  simp [commandAt, found]

theorem Token.takesNext_iff (style : ValueStyle) (token : Token) :
    token.takesNext style = true ↔
      style = .nextToken ∧ ∃ given, token.kind = .option given ∧ given.value? = none := by
  rcases token with ⟨kind, span⟩
  cases style <;> cases kind <;> simp [takesNext]

theorem Token.takesNext_of_asValue? {value : Value} (sort : token.asValue? = some value) :
    token.takesNext style = false := by
  rcases token with ⟨kind, span⟩
  cases kind <;> cases style <;> cases sort <;> rfl

/-- The first item says whether the first token is a command. -/
theorem Item.startWithOption_ofTokens (style : ValueStyle) (token : Token) (rest : List Token)
    (formed : (ofTokens style (token :: rest)).1 ≠ []) :
    startWithOption (ofTokens style (token :: rest)).1 = !token.isCommand := by
  rcases token with ⟨kind, span⟩
  cases kind with
  | program literal => exact absurd rfl formed
  | value literal => exact absurd rfl formed
  | command name => rfl
  | option given =>
      cases rest with
      | nil => rfl
      | cons next rest =>
          rw [ofTokens]
          split <;> rfl

theorem firstFault?_of_at (found : tokens[start]? = some token) :
    firstFault? settings tokens start =
      (faultAt settings tokens start).or (firstFault? settings tokens (start + 1)) := by
  have inside : start < tokens.length := (List.getElem?_eq_some_iff.1 found).1
  have count : tokens.length - start = (tokens.length - (start + 1)) + 1 := by omega
  rw [firstFault?, count, List.range'_succ, List.findSome?_cons, firstFault?]
  cases faultAt settings tokens start <;> rfl

theorem firstFault?_of_end (ended : tokens.length ≤ start) :
    firstFault? settings tokens start = none := by
  have count : tokens.length - start = 0 := by omega
  rw [firstFault?, count]
  rfl

theorem faultAt_option {given : OptionUse} {span : Span}
    (found : tokens[start]? = some ⟨.option given, span⟩) :
    faultAt settings tokens start = none := by
  simp [faultAt, found]

theorem faultAt_taken {value : Value} (found : tokens[start]? = some token)
    (sort : token.asValue? = some value)
    (taken : takenAt settings.valueStyle tokens start = true) :
    faultAt settings tokens start = none := by
  rcases token with ⟨kind, span⟩
  cases kind <;> cases sort <;> simp [faultAt, found, taken]

theorem takenAt_eq_false_of_free {value : Value}
    (free : takenAt style tokens start = true →
      ∀ other ∈ (token :: rest).head?, other.asValue? = none)
    (sort : token.asValue? = some value) : takenAt style tokens start = false := by
  rw [← Bool.not_eq_true]
  intro taken
  rw [free taken token rfl] at sort
  cases sort

/-- The depth behind a command hangs on what item comes next. -/
theorem Item.tooDeep?_behind_command {name : String} {span : Span}
    (found : tokens[start]? = some ⟨.command name, span⟩) (behind : tokens.drop (start + 1) = rest)
    (own : takenAt style tokens start = false) (limit : Nat) :
    tooDeep? limit
        (if startWithOption (ofTokens style rest).1 then depthAt style tokens start
          else depthAt style tokens start + 1) (ofTokens style rest).1 =
      tooDeep? limit (depthAt style tokens (start + 1)) (ofTokens style rest).1 := by
  have loose : takenAt style tokens (start + 1) = false := by
    rw [takenAt_succ found]
    cases style <;> rfl
  cases rest with
  | nil => rfl
  | cons next more =>
      by_cases empty : (ofTokens style (next :: more)).1 = []
      · rw [empty]
        rfl
      · obtain ⟨nextFound, -⟩ := getElem?_of_drop behind
        rw [depthAt_succ, commandAt_eq found, commandAt_eq nextFound, own, loose,
          startWithOption_ofTokens style next more empty]
        cases next.isCommand <;> rfl

/-- What items report is the first fault of their tokens. -/
theorem firstFault?_eq (settings : Settings) (tokens : List Token) (start : Nat)
    (remaining : List Token) (ahead : tokens.drop start = remaining)
    (free : takenAt settings.valueStyle tokens start = true →
      ∀ token ∈ remaining.head?, token.asValue? = none) :
    ((Item.tooDeep? settings.maxDepth (depthAt settings.valueStyle tokens start)
          (Item.ofTokens settings.valueStyle remaining).1).map
        (SyntaxError.nestingTooDeep settings.maxDepth)).or
      ((Item.ofTokens settings.valueStyle remaining).2.map
        (SyntaxError.unexpected "a command or an option")) =
      firstFault? settings tokens start := by
  -- along the items: `start` moves behind the tokens of each, and the token there is free
  fun_induction Item.ofTokens settings.valueStyle remaining generalizing start with
  | case1 =>
      rw [firstFault?_of_end (List.drop_eq_nil_iff.1 ahead)]
      rfl
  | case2 name span rest items misplaced formed ih =>
      obtain ⟨found, behind⟩ := getElem?_of_drop ahead
      have own : takenAt settings.valueStyle tokens start = false :=
        takenAt_eq_false_of_free free rfl
      have loose : takenAt settings.valueStyle tokens (start + 1) = false := by
        rw [takenAt_succ found]
        cases settings.valueStyle <;> rfl
      have below := ih (start + 1) behind (by simp [loose])
      have deeper := Item.tooDeep?_behind_command found behind own settings.maxDepth
      rw [formed] at below deeper
      rw [firstFault?_of_at found, ← below, ← deeper]
      by_cases deep : settings.maxDepth < depthAt settings.valueStyle tokens start
      · simp [faultAt, found, own, deep, Item.tooDeep?]
      · simp [faultAt, found, own, deep, Item.tooDeep?]
  | case3 given span =>
      obtain ⟨found, behind⟩ := getElem?_of_drop ahead
      rw [firstFault?_of_at found, faultAt_option found,
        firstFault?_of_end (List.drop_eq_nil_iff.1 behind)]
      rfl
  | case4 given span next rest value taken items misplaced formed ih =>
      obtain ⟨found, behind⟩ := getElem?_of_drop ahead
      obtain ⟨nextFound, furthest⟩ := getElem?_of_drop behind
      obtain ⟨style, bare, sort⟩ := (OptionUse.valueFrom?_eq_some_iff ..).1 taken
      have takes : takenAt settings.valueStyle tokens (start + 1) = true := by
        rw [takenAt_succ found, Token.takesNext_iff]
        exact ⟨style, given, rfl, bare⟩
      have loose : takenAt settings.valueStyle tokens (start + 2) = false := by
        rw [takenAt_succ nextFound, Token.takesNext_of_asValue? sort]
      have below := ih (start + 2) furthest (by simp [loose])
      have option : commandAt settings.valueStyle tokens start = false := by
        simp [commandAt_eq found, Token.isCommand]
      have value : commandAt settings.valueStyle tokens (start + 1) = false := by
        simp [commandAt_eq nextFound, takes]
      rw [formed, depthAt_succ_of_not_command _ _ value,
        depthAt_succ_of_not_command _ _ option] at below
      rw [firstFault?_of_at found, faultAt_option found, firstFault?_of_at nextFound,
        faultAt_taken nextFound sort takes, ← below]
      rfl
  | case5 given span next rest apart items misplaced formed ih =>
      obtain ⟨found, behind⟩ := getElem?_of_drop ahead
      have below := ih (start + 1) behind (by
        intro taken other first
        obtain rfl : next = other := by simpa using first
        rw [takenAt_succ found, Token.takesNext_iff] at taken
        obtain ⟨style, use, same, bare⟩ := taken
        cases same
        simpa [OptionUse.valueFrom?, style, bare] using apart)
      have option : commandAt settings.valueStyle tokens start = false := by
        simp [commandAt_eq found, Token.isCommand]
      rw [formed, depthAt_succ_of_not_command _ _ option] at below
      rw [firstFault?_of_at found, faultAt_option found, ← below]
      rfl
  | case6 token rest noCommand noOptionLast noOption =>
      obtain ⟨found, -⟩ := getElem?_of_drop ahead
      rw [firstFault?_of_at found]
      rcases token with ⟨kind, span⟩
      cases kind with
      | program literal => simp [faultAt, found, Item.tooDeep?]
      | value literal =>
          have own : takenAt settings.valueStyle tokens start = false :=
            takenAt_eq_false_of_free free rfl
          simp [faultAt, found, own, Item.tooDeep?]
      | command name => exact (noCommand name span rfl).elim
      | option given =>
          cases rest with
          | nil => exact (noOptionLast given span rfl rfl).elim
          | cons next more => exact (noOption given span next more rfl rfl).elim

/-- All that can be at fault with a token. -/
theorem faultAt_cases {index : Nat} {error : SyntaxError}
    (fault : faultAt settings tokens index = some error) :
    ∃ token, tokens[index]? = some token ∧
      (token.kind.isProgram = true ∧ error = .unexpected "a command or an option" token ∨
        (∃ literal, token.kind = .value literal) ∧
          takenAt settings.valueStyle tokens index = false ∧
          error = .unexpected "a command or an option" token ∨
        (∃ name, token.kind = .command name) ∧
          takenAt settings.valueStyle tokens index = false ∧
          settings.maxDepth < depthAt settings.valueStyle tokens index ∧
          error = .nestingTooDeep settings.maxDepth token.span) := by
  cases found : tokens[index]? with
  | none => simp [faultAt, found] at fault
  | some token =>
      refine ⟨token, rfl, ?_⟩
      rcases token with ⟨kind, span⟩
      cases taken : takenAt settings.valueStyle tokens index with
      | true => cases kind <;> simp_all [faultAt, Token.Kind.isProgram]
      | false => cases kind <;> simp_all [faultAt, Token.Kind.isProgram]

/-- A fault lies where its token is. -/
theorem exists_token_of_faultAt {index : Nat} {error : SyntaxError}
    (fault : faultAt settings tokens index = some error) :
    ∃ token, tokens[index]? = some token ∧ error.span = token.span := by
  obtain ⟨token, found, ⟨-, rfl⟩ | ⟨-, -, rfl⟩ | ⟨-, -, -, rfl⟩⟩ := faultAt_cases fault
  · exact ⟨token, found, rfl⟩
  · exact ⟨token, found, rfl⟩
  · exact ⟨token, found, rfl⟩

theorem firstFault?_eq_some {error : SyntaxError}
    (first : firstFault? settings tokens start = some error) :
    ∃ index, start ≤ index ∧ faultAt settings tokens index = some error ∧
      ∀ earlier, start ≤ earlier → earlier < index → faultAt settings tokens earlier = none := by
  obtain ⟨front, index, back, whole, fault, before⟩ := List.findSome?_eq_some_iff.1 first
  obtain ⟨count, -, rfl, behind⟩ := List.range'_eq_append_iff.1 whole
  obtain ⟨rfl, -, -⟩ := List.range'_eq_cons_iff.1 behind.symm
  rw [Nat.mul_one] at fault
  refine ⟨start + count, by omega, fault, ?_⟩
  intro earlier fromStart sooner
  exact before earlier (List.mem_range'_1.2 ⟨fromStart, sooner⟩)

theorem firstFault?_eq_none (none : firstFault? settings tokens start = none) :
    ∀ index, start ≤ index → faultAt settings tokens index = .none := by
  intro index behind
  by_cases inside : index < tokens.length
  · exact List.findSome?_eq_none_iff.1 none index (List.mem_range'_1.2 ⟨behind, by omega⟩)
  · have outside : tokens[index]? = .none := by simpa using inside
    simp [faultAt, outside]

end Faults

end CommandLine
