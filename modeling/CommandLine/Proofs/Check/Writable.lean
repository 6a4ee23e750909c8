import CommandLine.Proofs.Check.Moved
import CommandLine.Proofs.Check.Sample
import CommandLine.Proofs.Tree.Unplaced

/-!
# Rules that a line can satisfy

Every grammar has a tree that satisfies it, but that tree need not be the tree of a line.
On a line only options close a command, so that another one can stand beside it.  Siblings
that must all occur therefore need options, each but the last of them, and the last one
has commands below it or options, not both.  `Level.Writable` says this of rules, and it is
all that a line needs (`exists_valid_line_iff_writable`).
-/

set_option autoImplicit false

namespace CommandLine

def Level.Silent (level : Level) : Prop :=
  level.quantifier.demands = false ∧ level.demanded = []

/-- A command that can be given with an option and without commands below it, so that a
sibling can follow. -/
def CommandRule.Closable (rule : CommandRule) : Prop :=
  rule.level.Silent ∧ rule.options ≠ []

inductive Level.Writable : Level → Prop
  | silent {level : Level} (silent : level.Silent) : Writable level
  | last {level : Level} {rule : CommandRule} (declared : rule ∈ level.commands)
      (occurs : rule.quantifier ≠ .zero) (prior : rule ∈ level.demanded ∨ level.demanded = [])
      (others : ∀ other ∈ level.demanded, other.name ≠ rule.name → other.Closable)
      (ends : rule.level.Silent ∨ ∀ option ∈ rule.options, option.required = false)
      (below : rule.level.Writable) : Writable level

/-- Names that stand for commands and options wherever they are written. -/
structure Level.PlainlyNamed (level : Level) : Prop where
  commands : ∀ rule ∈ level.commands, Bare '"' rule.name ∧ rule.name.toList.head? ≠ some '-'
  options : ∀ rule ∈ level.options, OptionUse.Named .long rule.name

instance (level : Level) : Decidable level.PlainlyNamed :=
  decidable_of_iff
    ((∀ rule ∈ level.commands, Bare '"' rule.name ∧ rule.name.toList.head? ≠ some '-') ∧
      ∀ rule ∈ level.options, OptionUse.Named .long rule.name)
    ⟨fun ⟨commands, options⟩ => ⟨commands, options⟩,
      fun plain => ⟨plain.commands, plain.options⟩⟩

namespace Level

variable {level : Level}

/-! ## What a line shows of the rules -/

theorem commandsConform_nil_iff : level.CommandsConform [] ↔ level.Silent := by
  have free : level.demanded = [] ↔ ∀ rule ∈ level.commands, rule.quantifier.demands = false := by
    simp [demanded, List.filter_eq_nil_iff]
  rw [Silent, free]
  constructor
  · intro conform
    refine ⟨(Quantifier.admits_zero_iff _).1 conform.total, fun rule declared => ?_⟩
    exact (Quantifier.admits_zero_iff _).1 (conform.each rule declared)
  · rintro ⟨content, free⟩
    refine ⟨by simp, fun rule declared => ?_, (Quantifier.admits_zero_iff _).2 content⟩
    exact (Quantifier.admits_zero_iff _).2 (free rule declared)

theorem optionsConform_nil_iff :
    level.OptionsConform [] ↔ ∀ rule ∈ level.options, rule.required = false := by
  constructor
  · intro conform rule declared
    rw [← Bool.not_eq_true]
    intro required
    obtain ⟨option, given, -⟩ := conform.required rule declared required
    cases given
  · intro free
    refine ⟨by simp, fun rule declared required => ?_, by simp, by simp⟩
    rw [free rule declared] at required
    cases required

theorem Conforms.closable {rule : CommandRule} {options : List OptionUse}
    (conforms : rule.level.Conforms [] options) (given : options ≠ []) : rule.Closable := by
  obtain ⟨none, matching, -⟩ := (conforms_iff ..).1 conforms
  obtain ⟨option, first⟩ := List.exists_mem_of_ne_nil _ given
  obtain ⟨declaration, declared, -⟩ := matching.matched option first
  exact ⟨commandsConform_nil_iff.1 none, List.ne_nil_of_mem declared⟩

theorem Conforms.ends {rule : CommandRule} {commands : List CommandUse}
    {options : List OptionUse} (conforms : rule.level.Conforms commands options)
    (alone : commands = [] ∨ options = []) :
    rule.level.Silent ∨ ∀ option ∈ rule.options, option.required = false := by
  obtain ⟨below, given, -⟩ := (conforms_iff ..).1 conforms
  rcases alone with rfl | rfl
  · exact .inl (commandsConform_nil_iff.1 below)
  · exact .inr (optionsConform_nil_iff.1 given)

/-- Of the commands that must occur, those that the last one is no occurrence of stand in
front of it. -/
theorem Conforms.closable_of_separated {front : List CommandUse} {last : CommandUse}
    {options : List OptionUse} (conforms : level.Conforms (front ++ [last]) options)
    (separated : Separated (front ++ [last])) {rule : CommandRule}
    (demanded : rule ∈ level.demanded) (unnamed : rule.names last = false) : rule.Closable := by
  obtain ⟨conform, -, inside⟩ := (conforms_iff ..).1 conforms
  obtain ⟨command, given, bears⟩ := conform.present demanded
  have before : command ∈ front := by
    rcases List.mem_append.1 given with early | same
    · exact early
    · rw [List.mem_singleton.1 same, unnamed] at bears
      cases bears
  rw [Separated, List.dropLast_concat] at separated
  obtain ⟨options, bare⟩ := separated command before
  have below := inside command given rule (List.mem_filter.1 demanded).1 bears
  rw [bare] at below
  exact below.closable options

/-- A level that arranged commands conform to is writable. -/
theorem Conforms.writable {commands : List CommandUse} (arranged : Arranged commands) :
    ∀ {level : Level} {options : List OptionUse}, level.Conforms commands options →
      level.Writable := by
  induction arranged with
  | @intro siblings separated alone _ ih =>
      intro level options conforms
      obtain ⟨conform, -, inside⟩ := (conforms_iff ..).1 conforms
      rcases List.eq_nil_or_concat siblings with rfl | ⟨front, last, rfl⟩
      · exact .silent (commandsConform_nil_iff.1 conform)
      rw [List.concat_eq_append] at *
      have lastIn : last ∈ front ++ [last] := by simp
      have ending : ∀ rule ∈ level.commands, rule.names last = true →
          rule ∈ level.demanded ∨ level.demanded = [] → level.Writable := by
        intro rule declared bears prior
        have below := inside last lastIn rule declared bears
        refine .last declared (conform.occurs lastIn declared bears) prior ?_
          (below.ends (alone last lastIn)) (ih last lastIn below)
        intro other demanded apart
        apply conforms.closable_of_separated separated demanded
        rw [← Bool.not_eq_true]
        intro too
        exact apart ((beq_iff_eq.1 too).symm.trans (beq_iff_eq.1 bears))
      by_cases named : ∃ rule ∈ level.demanded, rule.names last = true
      · obtain ⟨rule, demanded, bears⟩ := named
        exact ending rule (List.mem_filter.1 demanded).1 bears (.inl demanded)
      -- all demanded commands come before the last one, so any of them could be the last
      have closable : ∀ other ∈ level.demanded, other.Closable := by
        intro other demanded
        apply conforms.closable_of_separated separated demanded
        rw [← Bool.not_eq_true]
        exact fun bears => named ⟨other, demanded, bears⟩
      by_cases free : level.demanded = []
      · obtain ⟨rule, declared, bears⟩ := conform.named last lastIn
        exact ending rule declared bears (.inr free)
      · obtain ⟨rule, demanded⟩ := List.exists_mem_of_ne_nil _ free
        obtain ⟨declared, demands⟩ := List.mem_filter.1 demanded
        have silent := (closable rule demanded).1
        exact .last declared (Quantifier.ne_zero_of_demands demands) (.inl demanded)
          (fun other too _ => closable other too) (.inl silent) (.silent silent)

end Level

/-! ## Commands for writable rules -/

/-- A command without commands below it, and with all options that its rule declares. -/
def CommandRule.closed (rule : CommandRule) : CommandUse :=
  ⟨rule.name, .point 0, [], rule.options.map OptionRule.sample⟩

/-- A command satisfies a rule and can stand last among its siblings on a line. -/
structure CommandRule.WrittenAs (rule : CommandRule) (command : CommandUse) : Prop where
  name : command.name = rule.name
  alone : command.commands = [] ∨ command.options = []
  arranged : Arranged command.commands
  conforms : rule.level.Conforms command.commands command.options
  readable : ∀ item ∈ command.items, item.kind.Readable '"'

structure Level.WrittenAs (level : Level) (commands : List CommandUse) : Prop where
  arranged : Arranged commands
  conforms : ∀ options, level.OptionsConform options → level.Conforms commands options
  readable : ∀ item ∈ commands.flatMap CommandUse.items, item.kind.Readable '"'

/-- The rules of the commands that must stand in front of a last one. -/
def Level.beside (level : Level) (rule : CommandRule) : List CommandRule :=
  level.demanded.filter fun other => other.name != rule.name

theorem arranged_nil : Arranged [] :=
  .intro (by simp [Separated]) (by simp) (by simp)

theorem OptionRule.readable_sample {rule : OptionRule} (named : OptionUse.Named .long rule.name) :
    rule.sample.Readable '"' := by
  refine ⟨named, ?_⟩
  intro value given
  have word : (⟨"value", false⟩ : Literal).Readable '"' := by decide
  cases wanted : rule.expectsValue with
  | false => simp [OptionRule.sample, wanted] at given
  | true =>
      simp only [OptionRule.sample, wanted, if_true, Option.mem_some_iff] at given
      exact given ▸ word

namespace Level

variable {level : Level}

theorem writtenAs_nil (silent : level.Silent) : level.WrittenAs [] :=
  ⟨arranged_nil, fun _ conform => .intro (commandsConform_nil_iff.2 silent) conform (by simp),
    by simp⟩

theorem PlainlyNamed.readable_samples (plain : level.PlainlyNamed) :
    ∀ item ∈ (level.options.map OptionRule.sample).map Item.option, item.kind.Readable '"' := by
  simp only [List.forall_mem_map]
  intro rule declared
  exact rule.readable_sample (plain.options rule declared)

theorem writtenAs_closed {rule : CommandRule} (plain : level.PlainlyNamed)
    (declared : rule ∈ level.commands) (sound : rule.level.Sound)
    (plainBelow : rule.level.PlainlyNamed) (silent : rule.level.Silent) :
    rule.WrittenAs rule.closed := by
  refine ⟨rfl, .inl rfl, arranged_nil, ?_, ?_⟩
  · change rule.level.Conforms [] (rule.level.options.map OptionRule.sample)
    exact .intro (commandsConform_nil_iff.2 silent) (optionsConform_sample sound.named) (by simp)
  · rw [CommandUse.items_eq, Item.ofParts]
    refine List.forall_mem_cons.2 ⟨plain.commands rule declared, ?_⟩
    simpa [CommandRule.closed, CommandRule.level] using plainBelow.readable_samples

theorem WrittenAs.last {rule : CommandRule} {commands : List CommandUse}
    (plain : level.PlainlyNamed) (declared : rule ∈ level.commands)
    (written : rule.level.WrittenAs commands)
    (free : ∀ option ∈ rule.options, option.required = false) :
    rule.WrittenAs ⟨rule.name, .point 0, commands, []⟩ := by
  refine ⟨rfl, .inr rfl, written.arranged, written.conforms [] (optionsConform_nil_iff.2 free), ?_⟩
  rw [CommandUse.items_eq, Item.ofParts]
  exact List.forall_mem_cons.2 ⟨plain.commands rule declared, written.readable⟩

/-! ## Siblings for writable rules -/

theorem beside_sublist (rule : CommandRule) : (level.beside rule).Sublist level.commands :=
  List.filter_sublist.trans List.filter_sublist

theorem mem_beside {rule other : CommandRule} :
    other ∈ level.beside rule ↔ other ∈ level.demanded ∧ other.name ≠ rule.name := by
  simp [beside]

theorem nodup_beside (named : level.WellNamed) (rule : CommandRule) :
    ((level.beside rule ++ [rule]).map CommandRule.name).Nodup := by
  rw [List.map_append, List.map_singleton, ← List.concat_eq_append, List.nodup_concat]
  refine ⟨?_, ((beside_sublist rule).map CommandRule.name).nodup named.commandNames⟩
  intro member
  obtain ⟨other, inside, same⟩ := List.mem_map.1 member
  exact (mem_beside.1 inside).2 same

/-- A sound level that needs a command has room for those that must occur. -/
theorem Sound.admits_beside (sound : level.Sound) (needy : ¬ level.Silent) {rule : CommandRule}
    (prior : rule ∈ level.demanded ∨ level.demanded = []) :
    level.quantifier.admits (level.beside rule ++ [rule]).length = true := by
  rcases prior with demanded | none
  · apply Quantifier.admits_of_pos (by simp)
    intro most limit
    have inside : (level.beside rule ++ [rule]).map CommandRule.name ⊆
        level.demanded.map CommandRule.name := by
      apply List.map_subset
      intro other member
      rcases List.mem_append.1 member with before | same
      · exact (mem_beside.1 before).1
      · exact List.mem_singleton.1 same ▸ demanded
    have fewer := (List.subperm_of_subset (nodup_beside sound.named rule) inside).length_le
    rw [List.length_map, List.length_map, level.length_demanded] at fewer
    exact Nat.le_trans fewer (sound.room most limit)
  · have must : level.quantifier.demands = true := by
      rw [← Bool.not_eq_false]
      exact fun content => needy ⟨content, none⟩
    rw [beside, none]
    exact Quantifier.admits_one_of_demands must

/-- Closable commands and a last one satisfy a level together. -/
theorem writtenAs_siblings (sound : level.Sound) (needy : ¬ level.Silent) {rule : CommandRule}
    {last : CommandUse} (declared : rule ∈ level.commands) (occurs : rule.quantifier ≠ .zero)
    (prior : rule ∈ level.demanded ∨ level.demanded = [])
    (before : ∀ other ∈ level.beside rule, other.options ≠ [] ∧ other.WrittenAs other.closed)
    (written : rule.WrittenAs last) :
    level.WrittenAs ((level.beside rule).map CommandRule.closed ++ [last]) := by
  have each : ∀ command ∈ (level.beside rule).map CommandRule.closed ++ [last],
      ∃ other ∈ level.commands, other.WrittenAs command := by
    intro command member
    rcases List.mem_append.1 member with early | same
    · obtain ⟨other, inside, rfl⟩ := List.mem_map.1 early
      exact ⟨other, (beside_sublist rule).subset inside, (before other inside).2⟩
    · exact ⟨rule, declared, List.mem_singleton.1 same ▸ written⟩
  refine ⟨.intro ?_ ?_ ?_, ?_, ?_⟩
  · rw [Separated, List.dropLast_concat]
    simp only [List.forall_mem_map]
    intro other inside
    exact ⟨by simpa [CommandRule.closed] using (before other inside).1, rfl⟩
  · intro command member
    obtain ⟨other, -, written⟩ := each command member
    exact written.alone
  · intro command member
    obtain ⟨other, -, written⟩ := each command member
    exact written.arranged
  · intro options conform
    refine .intro (commandsConform_of_names sound.named (level.beside rule ++ [rule])
      ?_ (nodup_beside sound.named rule) ?_ ?_ (sound.admits_beside needy prior)) conform ?_
    · simp [CommandRule.closed, written.name, Function.comp_def]
    · intro other member
      rcases List.mem_append.1 member with early | same
      · have demanded := (List.mem_filter.1 (mem_beside.1 early).1)
        exact ⟨demanded.1, Quantifier.ne_zero_of_demands demanded.2⟩
      · exact List.mem_singleton.1 same ▸ ⟨declared, occurs⟩
    · intro other demanded
      by_cases same : other.name = rule.name
      · have equal := List.inj_on_of_nodup_map sound.named.commandNames
          (List.mem_filter.1 demanded).1 declared same
        simp [equal]
      · exact List.mem_append_left _ (mem_beside.2 ⟨demanded, same⟩)
    · intro command member other inside bears
      obtain ⟨own, ownDeclared, written⟩ := each command member
      obtain rfl := List.inj_on_of_nodup_map sound.named.commandNames ownDeclared inside
        (written.name.symm.trans (beq_iff_eq.1 bears))
      exact written.conforms
  · intro item member
    obtain ⟨command, inside, own⟩ := List.mem_flatMap.1 member
    obtain ⟨other, -, written⟩ := each command inside
    exact written.readable item own

/-- Writable rules are satisfied by commands that can stand on a line. -/
theorem Writable.exists_writtenAs (writable : level.Writable) :
    (∀ target, level.Reaches target → target.Sound ∧ target.PlainlyNamed) →
      ∃ commands, level.WrittenAs commands := by
  induction writable with
  | silent silent => exact fun _ => ⟨[], writtenAs_nil silent⟩
  | @last level rule declared occurs prior others ends below ih =>
      intro plain
      obtain ⟨sound, named⟩ := plain level (.here level)
      by_cases silent : level.Silent
      · exact ⟨[], writtenAs_nil silent⟩
      have closed : ∀ other ∈ level.commands, other.quantifier ≠ .zero → other.level.Silent →
          other.WrittenAs other.closed := by
        intro other declared occurs silent
        obtain ⟨soundBelow, plainBelow⟩ := plain other.level (.down declared occurs (.here _))
        exact writtenAs_closed named declared soundBelow plainBelow silent
      have before : ∀ other ∈ level.beside rule,
          other.options ≠ [] ∧ other.WrittenAs other.closed := by
        intro other inside
        obtain ⟨demanded, apart⟩ := mem_beside.1 inside
        obtain ⟨inLevel, demands⟩ := List.mem_filter.1 demanded
        obtain ⟨silent, options⟩ := others other demanded apart
        exact ⟨options, closed other inLevel (Quantifier.ne_zero_of_demands demands) silent⟩
      rcases ends with silentBelow | free
      · exact ⟨_, writtenAs_siblings sound silent declared occurs prior before
          (closed rule declared occurs silentBelow)⟩
      · obtain ⟨commands, written⟩ := ih fun target further =>
          plain target (.down declared occurs further)
        exact ⟨_, writtenAs_siblings sound silent declared occurs prior before
          (written.last named declared free)⟩

end Level

/-! ## Valid lines -/

theorem Level.forall_reaches_of_leaf {level : Level} {property : Level → Prop}
    (leaf : level.commands = []) (own : property level) :
    ∀ target, level.Reaches target → property target := by
  rw [forall_reaches_iff, leaf]
  exact ⟨own, by simp⟩

namespace Grammar

/-- Conformity does not hang on spans. -/
theorem conforms_unplaced_iff (grammar : Grammar) (commands : List CommandUse)
    (options : List OptionUse) :
    grammar.level.Conforms (commands.map CommandUse.unplaced) (options.map OptionUse.unplaced) ↔
      grammar.level.Conforms commands options := by
  have silent := Level.violations_eq_nil_iff
    (fun _ reached => grammar.wellNamed_of_reaches reached) (.point 0)
  have monotone : Monotone fun _ : Nat => 0 := fun _ _ _ => Nat.le_refl 0
  have place : (Span.point 0).moved id = (Span.point 0).moved fun _ => 0 := rfl
  have moved := grammar.level.violations_moved monotone place commands options
  rw [CommandUse.moved_zero] at moved
  have alike := congrArg (fun found => found = []) moved
  simp only [List.map_eq_nil_iff] at alike
  rw [← silent, ← silent]
  exact iff_of_eq alike

theorem writable_of_validate {grammar : Grammar} {settings : Settings} {source : String}
    {tree : Tree} (valid : validate settings grammar source = .ok tree) :
    grammar.level.Writable := by
  obtain ⟨parsed, silent⟩ := (validate_eq_ok_iff ..).1 valid
  exact ((check_eq_nil_iff ..).1 silent).writable (Tree.formed_of_parse parsed).arranged

/-- A line with the tokens of a tree, each behind a space. -/
theorem exists_line_of_kinds {tree : Tree} (arranged : Arranged tree.commands)
    (readable : ∀ kind ∈ tree.kinds, kind.Readable '"') :
    ∃ source parsed, Tree.parse ⟨'"', .attached, tree.depth⟩ source = .ok parsed ∧
      parsed.unplaced = tree.unplaced := by
  let pieces : List Piece := tree.kinds.map fun kind => ⟨[' '], kind⟩
  have kinds : pieces.map Piece.kind = tree.kinds := by simp [pieces, Function.comp_def]
  have accepted : Cli.readQuote "\"" = .ok '"' := by decide
  have legible : Legible '"' (pieces.map Piece.kind) := by
    rw [kinds]
    exact Cli.legible_kinds accepted readable
  have spaced : Spaced pieces [] := by
    refine ⟨?_, by simp, ?_⟩
    · simp [pieces, Text.isBlank]
    · apply List.Pairwise.isChain
      rw [List.pairwise_map]
      exact List.pairwise_of_forall fun _ _ _ => by simp
  have cut := lex_written legible spaced
  have same : (placed '"' 0 pieces).map (fun token => token.kind.unplaced) =
      tree.kinds.map Token.Kind.unplaced := by
    rw [unplaced_placed]
    simp [pieces, Function.comp_def]
  have apart : (⟨'"', .attached, tree.depth⟩ : Settings).valueStyle = .nextToken →
      (Item.ofParts tree.commands tree.options).IsChain Item.Apart := by
    intro next
    cases next
  exact ⟨_, Tree.exists_parse_of_kinds apart cut same arranged (Nat.le_refl _)⟩

theorem exists_line_of_writable {grammar : Grammar}
    (plain : ∀ level, grammar.level.Reaches level → level.PlainlyNamed)
    (writable : grammar.level.Writable) :
    ∃ source maxDepth tree, validate ⟨'"', .attached, maxDepth⟩ grammar source = .ok tree := by
  obtain ⟨commands, written⟩ := writable.exists_writtenAs fun level reached =>
    ⟨grammar.sound_of_reaches reached, plain level reached⟩
  let options := grammar.level.options.map OptionRule.sample
  let tree : Tree := ⟨"", ⟨⟨"tool", false⟩, .point 0⟩, commands, options⟩
  have program : (⟨"tool", false⟩ : Literal).Readable '"' := by decide
  have readable : ∀ kind ∈ tree.kinds, kind.Readable '"' := by
    rw [Tree.kinds, List.forall_mem_cons, List.forall_mem_map, Item.ofParts,
      List.forall_mem_append]
    exact ⟨program, (plain _ (.here _)).readable_samples, written.readable⟩
  obtain ⟨source, parsed, found, alike⟩ := exists_line_of_kinds written.arranged readable
  obtain ⟨-, -, sameCommands, sameOptions⟩ := Tree.mk.inj alike
  refine ⟨source, _, parsed, (validate_eq_ok_iff ..).2 ⟨found, (check_eq_nil_iff ..).2 ?_⟩⟩
  rw [← conforms_unplaced_iff, sameCommands, sameOptions, conforms_unplaced_iff]
  exact written.conforms options
    (Level.optionsConform_sample (grammar.wellNamed_of_reaches (.here _)))

end Grammar

/-- Accepted rules with plain names are satisfied by a line just when they are writable. -/
theorem exists_valid_line_iff_writable {grammar : Grammar}
    (plain : ∀ level, grammar.level.Reaches level → level.PlainlyNamed) :
    (∃ source maxDepth tree,
      validate ⟨'"', .attached, maxDepth⟩ grammar source = .ok tree) ↔
      grammar.level.Writable :=
  ⟨fun ⟨_, _, _, valid⟩ => Grammar.writable_of_validate valid,
    Grammar.exists_line_of_writable plain⟩

theorem exists_valid_line_of_nested_commands :
    let option : OptionRule := ⟨"x", some 'y', true, true, false⟩
    let below : CommandRule := ⟨"c", .zeroOrOne, .zero, [], []⟩
    let level : Level := ⟨.oneOrMultiple, [⟨"a", .one, .zeroOrOne, [], [option]⟩,
      ⟨"b", .one, .one, [below], []⟩], [option]⟩
    ∃ grammar : Grammar, grammar.level = level ∧
      (∀ level, grammar.level.Reaches level → level.PlainlyNamed) ∧ grammar.level.Writable ∧
      ((∃ source maxDepth tree,
        validate ⟨'"', .attached, maxDepth⟩ grammar source = .ok tree) ↔
        grammar.level.Writable) := by
  intro option below level
  have faultless : level.fault? = none := by decide
  have plain : ∀ target, level.Reaches target → target.PlainlyNamed := by
    rw [Level.forall_reaches_iff]
    refine ⟨by decide, List.forall_mem_cons.2
      ⟨fun _ => ?_, List.forall_mem_singleton.2 fun _ => ?_⟩⟩
    · exact Level.forall_reaches_of_leaf rfl (by decide)
    · rw [Level.forall_reaches_iff]
      refine ⟨by decide, List.forall_mem_singleton.2 fun _ => ?_⟩
      exact Level.forall_reaches_of_leaf rfl (by decide)
  have inner : Level.Writable ⟨.one, [below], []⟩ :=
    .last List.mem_cons_self (by decide) (.inr rfl) (by simp [Level.demanded, below,
      Quantifier.demands, Quantifier.least]) (.inl ⟨rfl, rfl⟩) (.silent ⟨rfl, rfl⟩)
  have declared : ⟨"b", .one, .one, [below], []⟩ ∈ level.commands := by simp [level]
  have writable : level.Writable := by
    refine .last declared (by decide)
      (.inl (by simp [level, Level.demanded, Quantifier.demands, Quantifier.least])) ?_
      (.inr (by simp)) inner
    intro other demanded apart
    rcases List.mem_cons.1 (List.mem_filter.1 demanded).1 with rfl | later
    · exact ⟨⟨rfl, rfl⟩, List.cons_ne_nil _ _⟩
    · exact absurd (congrArg CommandRule.name (List.mem_singleton.1 later)) apart
  exact ⟨⟨level, faultless⟩, rfl, plain, writable, exists_valid_line_iff_writable plain⟩

/-- Two commands that must occur, and neither of them has an option to end with. -/
theorem no_valid_line_of_bare_siblings :
    let level : Level := ⟨.zeroOrMultiple, [⟨"a", .one, .zeroOrMultiple, [], []⟩,
      ⟨"b", .one, .zeroOrMultiple, [], []⟩], []⟩
    ∃ grammar, Grammar.ofLevel level = .ok grammar ∧
      (∀ target, level.Reaches target → target.PlainlyNamed) ∧
      ∀ source maxDepth tree,
        validate ⟨'"', .attached, maxDepth⟩ grammar source ≠ .ok tree := by
  intro level
  have faultless : level.fault? = none := by decide
  refine ⟨⟨level, faultless⟩, (Grammar.ofLevel_eq_ok_iff ..).2 rfl, ?_, ?_⟩
  · rw [Level.forall_reaches_iff]
    refine ⟨by decide, List.forall_mem_cons.2
      ⟨fun _ => ?_, List.forall_mem_singleton.2 fun _ => ?_⟩⟩
    · exact Level.forall_reaches_of_leaf rfl (by decide)
    · exact Level.forall_reaches_of_leaf rfl (by decide)
  · intro source maxDepth tree valid
    have writable : level.Writable := Grammar.writable_of_validate valid
    have bare : ∀ rule ∈ level.commands, ¬ rule.Closable :=
      List.forall_mem_cons.2 ⟨fun closable => closable.2 rfl,
        List.forall_mem_singleton.2 fun closable => closable.2 rfl⟩
    cases writable with
    | silent silent => cases silent.2
    | @last _ rule declared occurs prior others ends below =>
        obtain ⟨other, inside, apart⟩ : ∃ other ∈ level.commands, other.name ≠ rule.name := by
          rcases List.mem_cons.1 declared with rfl | later
          · exact ⟨_, List.mem_cons_of_mem _ List.mem_cons_self, by decide⟩
          · exact ⟨_, List.mem_cons_self, by rw [List.mem_singleton.1 later]; decide⟩
        exact bare other inside (others other inside apart)

end CommandLine
