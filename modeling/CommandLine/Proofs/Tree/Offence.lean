import CommandLine.Proofs.Token.Tokenize
import CommandLine.Proofs.Tree.Fault
import CommandLine.Proofs.Tree.Parse

/-!
# What keeps a source from having a tree

Three things offend: a quoted value that no option takes, a command that lies too
deep, and a lexical error.  A source without an offence has a tree unless it is blank,
and any other has the error of its first offence (`parse_finds_first_offence`).  Depths
are told from the tokens, but are those of the tree (`depth_le_iff_of_parse`).
-/

set_option autoImplicit false

namespace CommandLine

open Text (bytes)

structure WellPlaced (settings : Settings) (tokens : List Token) : Prop where
  nonempty : tokens ≠ []
  taken : ∀ index literal span, 0 < index → tokens[index]? = some ⟨.value literal, span⟩ →
    takenAt settings.valueStyle tokens index = true
  shallow : ∀ index, commandAt settings.valueStyle tokens index = true →
    depthAt settings.valueStyle tokens index ≤ settings.maxDepth

/-- Something in a source keeps it from having a tree, with an error. -/
inductive Offends (settings : Settings) (source : String) : SyntaxError → Prop
  | misplaced {index : Nat} {literal : Literal} {span : Span} (behind : 0 < index)
      (found : (lex settings.quote source).tokens[index]? = some ⟨.value literal, span⟩)
      (loose : takenAt settings.valueStyle (lex settings.quote source).tokens index = false) :
      Offends settings source (.unexpectedToken "a command or an option"
        (Token.describe ⟨.value literal, span⟩) span)
  | tooDeep {index : Nat} {name : String} {span : Span}
      (found : (lex settings.quote source).tokens[index]? = some ⟨.command name, span⟩)
      (own : takenAt settings.valueStyle (lex settings.quote source).tokens index = false)
      (deep : settings.maxDepth <
        depthAt settings.valueStyle (lex settings.quote source).tokens index) :
      Offends settings source (.nestingTooDeep settings.maxDepth span)
  | lexical {error : LexError} (failed : tokenize settings.quote source = .error error) :
      Offends settings source (.lexical error)

/-! ## Offences of a source -/

theorem Ahead.settle_eq {α : Type} (limit depth : Nat) (ahead : Ahead) (result : α) :
    ahead.settle limit depth result =
      match ((Item.tooDeep? limit depth ahead.items).map (SyntaxError.nestingTooDeep limit)).or
        ahead.stop? with
      | some error => .error error
      | none => .ok result := by
  unfold settle
  cases Item.tooDeep? limit depth ahead.items <;> cases ahead.stop? <;> rfl

section Source

variable {settings : Settings} {source : String} {tokens : List Token} {error? : Option LexError}

/-- The error of the first offence, those of tokens before a lexical one. -/
def firstError? (settings : Settings) (lexed : Lexed) : Option SyntaxError :=
  (firstFault? settings lexed.tokens 1).or (lexed.error?.map .lexical)

theorem lex_programs (cut : lex settings.quote source = ⟨tokens, error?⟩) :
    (∀ token ∈ tokens.head?, token.kind.isProgram = true) ∧
      ∀ token ∈ tokens.tail, token.kind.isProgram = false := by
  have scanned : (Scanner.ofSource settings.quote source).run = ⟨tokens, error?⟩ := cut
  obtain ⟨-, first, later⟩ := Scanner.run_kinds (Scanner.ofSource settings.quote source)
  rw [scanned] at first later
  exact ⟨first, later⟩

theorem parse_eq_of_program {literal : Literal} {span : Span} {rest : List Token}
    (cut : lex settings.quote source = ⟨⟨.program literal, span⟩ :: rest, error?⟩) :
    ∃ tree, Tree.parse settings source =
      match firstError? settings ⟨⟨.program literal, span⟩ :: rest, error?⟩ with
      | some error => .error error
      | none => .ok tree := by
  have depth : depthAt settings.valueStyle (⟨.program literal, span⟩ :: rest) 1 = 1 := by
    rw [depthAt_succ, commandAt_eq (by rfl)]
    simp [Token.isCommand, depthAt]
  have reported := firstFault?_eq settings (⟨.program literal, span⟩ :: rest) 1 rest rfl (by
    rw [takenAt_succ (by rfl)]
    cases settings.valueStyle <;> simp [Token.takesNext])
  rw [depth] at reported
  let parts := Item.assemble (Item.ofTokens settings.valueStyle rest).1
  refine ⟨⟨source, ⟨literal, span⟩, parts.2, parts.1⟩, ?_⟩
  rw [Tree.parse_eq_ofLexed, cut, Tree.ofLexed]
  dsimp only
  rw [firstError?, ← reported, Option.or_assoc, Ahead.settle_eq]
  rfl

/-- Where there is something to read, the first error decides. -/
theorem parse_eq_of_lex (cut : lex settings.quote source = ⟨tokens, error?⟩)
    (present : tokens = [] → error? ≠ none) :
    ∃ tree, Tree.parse settings source =
      match firstError? settings ⟨tokens, error?⟩ with
      | some error => .error error
      | none => .ok tree := by
  rcases tokens with - | ⟨⟨kind, span⟩, rest⟩
  · obtain ⟨error, rfl⟩ := Option.ne_none_iff_exists'.1 (present rfl)
    refine ⟨⟨source, ⟨⟨"", false⟩, .point 0⟩, [], []⟩, ?_⟩
    rw [Tree.parse_eq_ofLexed, cut]
    rfl
  · have program := (lex_programs cut).1 _ rfl
    cases kind with
    | program literal => exact parse_eq_of_program cut
    | command name => cases program
    | option given => cases program
    | value literal => cases program

theorem offends_iff (cut : lex settings.quote source = ⟨tokens, error?⟩) (error : SyntaxError) :
    Offends settings source error ↔
      (∃ index, 0 < index ∧ faultAt settings tokens index = some error) ∨
        error?.map .lexical = some error := by
  have failed : ∀ lexical, tokenize settings.quote source = .error lexical ↔
      error? = some lexical := by
    intro lexical
    rw [tokenize, cut, Lexed.complete_eq_error_iff]
  constructor
  · intro offends
    cases offends with
    | @misplaced index literal span behind found loose =>
        rw [cut] at found loose
        exact .inl ⟨index, behind, by simp [faultAt, found, loose, SyntaxError.unexpected]⟩
    | @tooDeep index name span found own deep =>
        rw [cut] at found own deep
        refine .inl ⟨index, Nat.pos_of_ne_zero ?_, by simp [faultAt, found, own, deep]⟩
        rintro rfl
        have program := (lex_programs cut).1 _ (by rw [List.head?_eq_getElem?]; exact found)
        cases program
    | lexical stopped => exact .inr (by rw [(failed _).1 stopped]; rfl)
  · rintro (⟨index, behind, fault⟩ | stopped)
    · obtain ⟨⟨kind, span⟩, found, cause⟩ := faultAt_cases fault
      rcases cause with ⟨program, -⟩ | ⟨⟨literal, rfl⟩, loose, rfl⟩ | ⟨⟨name, rfl⟩, own, deep, rfl⟩
      · have later : ⟨kind, span⟩ ∈ tokens.tail := by
          obtain ⟨before, rfl⟩ := Nat.exists_eq_succ_of_ne_zero (Nat.ne_of_gt behind)
          apply List.mem_of_getElem?
          rw [List.getElem?_tail]
          exact found
        rw [(lex_programs cut).2 _ later] at program
        cases program
      · exact .misplaced behind (by rw [cut]; exact found) (by rw [cut]; exact loose)
      · exact .tooDeep (by rw [cut]; exact found) (by rw [cut]; exact own)
          (by rw [cut]; exact deep)
    · obtain ⟨lexical, same, rfl⟩ := Option.map_eq_some_iff.1 stopped
      exact .lexical ((failed lexical).2 same)

/-- Faults come in the order of their tokens. -/
theorem position_lt_of_faults (cut : lex settings.quote source = ⟨tokens, error?⟩)
    {index later : Nat} {error other : SyntaxError} (order : index < later)
    (fault : faultAt settings tokens index = some error)
    (otherFault : faultAt settings tokens later = some other) :
    error.span.position < other.span.position := by
  obtain ⟨rest, laidOut, -⟩ := lex_laidOut settings.quote source
  rw [cut] at laidOut
  obtain ⟨token, found, place⟩ := exists_token_of_faultAt fault
  obtain ⟨next, nextFound, nextPlace⟩ := exists_token_of_faultAt otherFault
  obtain ⟨inside, rfl⟩ := List.getElem?_eq_some_iff.1 found
  obtain ⟨nextInside, rfl⟩ := List.getElem?_eq_some_iff.1 nextFound
  have apart : tokens[index].span.stop ≤ tokens[later].span.position :=
    List.pairwise_iff_getElem.1 laidOut.ordered index later inside nextInside order
  have forward := (laidOut.standsIn tokens[index] (List.getElem_mem inside)).marks.position_lt_stop
  rw [place, nextPlace]
  omega

/-- A lexical error comes behind every fault. -/
theorem position_lt_of_lexical (cut : lex settings.quote source = ⟨tokens, error?⟩) {index : Nat}
    {error : SyntaxError} {lexical : LexError} (fault : faultAt settings tokens index = some error)
    (stopped : error? = some lexical) : error.span.position < lexical.span.position := by
  obtain ⟨rest, laidOut, -⟩ := lex_laidOut settings.quote source
  have scanned : (Scanner.ofSource settings.quote source).run = ⟨tokens, error?⟩ := cut
  have behind := Scanner.run_error_describes (Scanner.ofSource settings.quote source)
  rw [scanned] at behind
  rw [cut] at laidOut
  obtain ⟨token, found, place⟩ := exists_token_of_faultAt fault
  have member := List.mem_of_getElem? found
  have before := (behind lexical stopped).2 token member
  have forward := (laidOut.standsIn token member).marks.position_lt_stop
  rw [place]
  omega

theorem firstError?_eq_none (cut : lex settings.quote source = ⟨tokens, error?⟩)
    (none : firstError? settings ⟨tokens, error?⟩ = none) (error : SyntaxError) :
    ¬ Offends settings source error := by
  obtain ⟨faultless, complete⟩ := Option.or_eq_none_iff.1 none
  rw [offends_iff cut]
  rintro (⟨index, behind, fault⟩ | stopped)
  · rw [firstFault?_eq_none faultless index behind] at fault
    cases fault
  · rw [complete] at stopped
    cases stopped

theorem firstError?_eq_some (cut : lex settings.quote source = ⟨tokens, error?⟩)
    {error : SyntaxError} (first : firstError? settings ⟨tokens, error?⟩ = some error) :
    Offends settings source error ∧ ∀ other, Offends settings source other →
      other = error ∨ error.span.position < other.span.position := by
  simp only [offends_iff cut]
  rcases Option.or_eq_some_iff.1 first with fault | ⟨faultless, stopped⟩
  · obtain ⟨index, behind, fault, before⟩ := firstFault?_eq_some fault
    refine ⟨.inl ⟨index, behind, fault⟩, ?_⟩
    rintro other (⟨place, placeBehind, otherFault⟩ | stopped)
    · rcases Nat.lt_trichotomy place index with sooner | rfl | later
      · rw [before place placeBehind sooner] at otherFault
        cases otherFault
      · exact .inl (Option.some.inj (otherFault.symm.trans fault))
      · exact .inr (position_lt_of_faults cut later fault otherFault)
    · obtain ⟨lexical, same, rfl⟩ := Option.map_eq_some_iff.1 stopped
      exact .inr (position_lt_of_lexical cut fault same)
  · refine ⟨.inr stopped, ?_⟩
    rintro other (⟨place, placeBehind, otherFault⟩ | otherStopped)
    · rw [firstFault?_eq_none faultless place placeBehind] at otherFault
      cases otherFault
    · exact .inl (Option.some.inj (otherStopped.symm.trans stopped))

/-- Nothing offends in a source just when its tokens are well placed. -/
theorem no_offence_iff (cut : tokenize settings.quote source = .ok tokens)
    (nonempty : tokens ≠ []) :
    (∀ error, ¬ Offends settings source error) ↔ WellPlaced settings tokens := by
  have tokensEq : (lex settings.quote source).tokens = tokens := by
    rw [(Lexed.complete_eq_ok_iff ..).1 cut]
  constructor
  · intro offenceless
    refine ⟨nonempty, ?_, ?_⟩
    · intro index literal span behind found
      rw [← Bool.not_eq_false]
      intro loose
      rw [← tokensEq] at found loose
      exact offenceless _ (.misplaced behind found loose)
    · intro index command
      by_contra deep
      simp only [commandAt, Bool.and_eq_true, Bool.not_eq_true', Option.any_eq_true] at command
      obtain ⟨own, ⟨kind, span⟩, found, sort⟩ := command
      cases kind with
      | command name =>
          rw [← tokensEq] at found own deep
          exact offenceless _ (.tooDeep found own (Nat.lt_of_not_le deep))
      | program literal => cases sort
      | option given => cases sort
      | value literal => cases sort
  · intro placed error offends
    cases offends with
    | misplaced behind found loose =>
        rw [tokensEq] at found loose
        rw [placed.taken _ _ _ behind found] at loose
        cases loose
    | tooDeep found own deep =>
        rw [tokensEq] at found own deep
        have shallow := placed.shallow _ (by rw [commandAt_eq found, own]; rfl)
        omega
    | lexical failed =>
        rw [cut] at failed
        cases failed

end Source

/-! ## Verdicts -/

inductive Verdict (settings : Settings) (source : String) : Prop
  | blank (cut : tokenize settings.quote source = .ok [])
      (parsed : Tree.parse settings source = .error
        (.unexpectedToken "a program name" "end of input" (.point (bytes source.toList))))
      (offenceless : ∀ error, ¬ Offends settings source error)
  | offence (error : SyntaxError) (parsed : Tree.parse settings source = .error error)
      (present : tokenize settings.quote source ≠ .ok [])
      (offends : Offends settings source error)
      (first : ∀ other, Offends settings source other →
        other = error ∨ error.span.position < other.span.position)
  | tree (tree : Tree) (tokens : List Token) (parsed : Tree.parse settings source = .ok tree)
      (cut : tokenize settings.quote source = .ok tokens) (nonempty : tokens ≠ [])
      (offenceless : ∀ error, ¬ Offends settings source error)

theorem verdict (settings : Settings) (source : String) : Verdict settings source := by
  rcases cut : lex settings.quote source with ⟨tokens, error?⟩
  have complete : tokenize settings.quote source = Lexed.complete ⟨tokens, error?⟩ := by
    rw [tokenize, cut]
  -- only a source with nothing to read escapes the comparison of its errors
  by_cases blank : tokens = [] ∧ error? = none
  · obtain ⟨rfl, rfl⟩ := blank
    refine .blank complete ?_ (firstError?_eq_none cut rfl)
    rw [Tree.parse_eq_ofLexed, cut]
    rfl
  · obtain ⟨tree, parsed⟩ := parse_eq_of_lex cut fun empty none => blank ⟨empty, none⟩
    cases first : firstError? settings ⟨tokens, error?⟩ with
    | some error =>
        rw [first] at parsed
        obtain ⟨offends, before⟩ := firstError?_eq_some cut first
        refine .offence error parsed ?_ offends before
        intro none
        rw [complete, Lexed.complete_eq_ok_iff] at none
        cases none
        exact blank ⟨rfl, rfl⟩
    | none =>
        rw [first] at parsed
        obtain ⟨-, stopped⟩ := Option.or_eq_none_iff.1 first
        obtain rfl : error? = none := by simpa using stopped
        exact .tree tree tokens parsed complete (fun empty => blank ⟨empty, rfl⟩)
          (firstError?_eq_none cut first)

theorem exists_tree_iff_wellPlaced (settings : Settings) (source : String) :
    (∃ tree, Tree.parse settings source = .ok tree) ↔
      ∃ tokens, tokenize settings.quote source = .ok tokens ∧ WellPlaced settings tokens := by
  cases verdict settings source with
  | blank cut parsed offenceless =>
      simp only [parsed, cut, reduceCtorEq, exists_false, Except.ok.injEq, false_iff]
      rintro ⟨tokens, rfl, placed⟩
      exact placed.nonempty rfl
  | offence error parsed present offends first =>
      simp only [parsed, reduceCtorEq, exists_false, false_iff]
      rintro ⟨tokens, cut, placed⟩
      exact (no_offence_iff cut placed.nonempty).2 placed error offends
  | tree tree tokens parsed cut nonempty offenceless =>
      have placed := (no_offence_iff cut nonempty).1 offenceless
      exact ⟨fun _ => ⟨tokens, cut, placed⟩, fun _ => ⟨tree, parsed⟩⟩

/-- Commands lie as deep among the tokens of a tree as they do in the tree. -/
theorem depth_le_iff_of_parse {settings : Settings} {source : String} {tree : Tree}
    {tokens : List Token} (parsed : Tree.parse settings source = .ok tree)
    (cut : tokenize settings.quote source = .ok tokens) (limit : Nat) :
    tree.depth ≤ limit ↔ ∀ index, commandAt settings.valueStyle tokens index = true →
      depthAt settings.valueStyle tokens index ≤ limit := by
  rw [← Tree.exists_parse_iff_depth_le parsed, exists_tree_iff_wellPlaced]
  obtain ⟨whole, wholeCut, placed⟩ := (exists_tree_iff_wellPlaced ..).1 ⟨tree, parsed⟩
  obtain rfl : tokens = whole := Except.ok.inj (cut.symm.trans wholeCut)
  constructor
  · rintro ⟨others, othersCut, within⟩
    obtain rfl : tokens = others := Except.ok.inj (cut.symm.trans othersCut)
    exact within.shallow
  · intro within
    exact ⟨tokens, cut, placed.nonempty, placed.taken, within⟩

theorem parse_eq_error_iff (settings : Settings) (source : String) (error : SyntaxError) :
    Tree.parse settings source = .error error ↔
      (tokenize settings.quote source = .ok [] ∧
        error = .unexpectedToken "a program name" "end of input"
          (.point (bytes source.toList))) ∨
      Offends settings source error ∧ ∀ other, Offends settings source other →
        other = error ∨ error.span.position < other.span.position := by
  cases verdict settings source with
  | blank cut parsed offenceless =>
      simp only [parsed, cut, offenceless, Except.error.injEq, true_and, false_and, or_false]
      exact eq_comm
  | offence found parsed present offends first =>
      rw [parsed, Except.error.injEq]
      constructor
      · rintro rfl
        exact .inr ⟨offends, first⟩
      · rintro (⟨cut, -⟩ | ⟨another, before⟩)
        · exact absurd cut present
        · -- neither of two first offences lies before the other
          rcases first error another with same | behind
          · exact same.symm
          · rcases before found offends with same | ahead
            · exact same
            · omega
  | tree tree tokens parsed cut nonempty offenceless =>
      simp only [parsed, cut, offenceless, reduceCtorEq, Except.ok.injEq, nonempty, false_and,
        or_false]

/-- A source has a tree if its tokens are well placed, and else the error of its first
offence. -/
theorem parse_finds_first_offence (settings : Settings) (source : String) :
    ((∃ tree, Tree.parse settings source = .ok tree) ↔
      ∃ tokens, tokenize settings.quote source = .ok tokens ∧ WellPlaced settings tokens) ∧
    (∀ error, Tree.parse settings source = .error error ↔
      (tokenize settings.quote source = .ok [] ∧
        error = .unexpectedToken "a program name" "end of input"
          (.point (bytes source.toList))) ∨
      Offends settings source error ∧ ∀ other, Offends settings source other →
        other = error ∨ error.span.position < other.span.position) ∧
    (∀ error, Tree.parse settings source = .error (.lexical error) →
      tokenize settings.quote source = .error error) ∧
    ∀ error, tokenize settings.quote source = .error error →
      ∃ first, Tree.parse settings source = .error first := by
  refine ⟨exists_tree_iff_wellPlaced settings source, parse_eq_error_iff settings source, ?_, ?_⟩
  · intro error parsed
    rcases (parse_eq_error_iff ..).1 parsed with ⟨-, impossible⟩ | ⟨offends, -⟩
    · cases impossible
    · cases offends with
      | lexical failed => exact failed
  · intro error failed
    cases parsed : Tree.parse settings source with
    | error first => exact ⟨first, rfl⟩
    | ok tree =>
        obtain ⟨tokens, cut, -⟩ := (exists_tree_iff_wellPlaced ..).1 ⟨tree, parsed⟩
        rw [failed] at cut
        cases cut

end CommandLine
