import CommandLine.Proofs.Rule.Blame

/-!
# Paths of errors

The path of an error names the commands around the rule that is reported, from the top level
down.  `Level.Reports` says where that rule lies without a look at the path: below commands
that may occur, and perhaps below one more that may not.

The path is the names of these commands in all cases but one.  The path to what lies below a
command that may not occur is built from the path to the command, and if this reads like
the path to the top level, it is dropped.  That happens below one top-level command, which is
itself named like the path to the top level (`pathText_eq_rootPath_iff`).
-/

set_option autoImplicit false

namespace CommandLine

def RuleError.path : RuleError → String
  | .duplicateName _ _ path => path
  | .unsatisfiable _ path _ => path
  | .emptyName _ path => path

namespace Level

def names (level : Level) : RuleSort → List String
  | .command => level.commands.map CommandRule.name
  | .option => level.options.map OptionRule.name

/-- How many rules of one sort answer to a name, letters behind a single dash included. -/
def answering (level : Level) (name : String) : RuleSort → Nat
  | .command => level.commands.countP fun rule => rule.name == name
  | .option => level.options.countP fun rule => rule.accepts name .short

/-- An error reports a rule that lies below commands of the given names, which may occur, and
then, if one more is given, below a command that may not. -/
inductive Reports (top : Level) : List String → Option String → RuleError → Prop
  | twice {owners : List String} {level : Level} {sort : RuleSort} {name path : String}
      (reached : top.ReachesBy owners level) (several : 2 ≤ level.answering name sort) :
      Reports top owners none (.duplicateName sort name path)
  | blank {owners : List String} {level : Level} {sort : RuleSort} {name path : String}
      (reached : top.ReachesBy owners level) (declared : name ∈ level.names sort)
      (blank : Text.allBlank name = true) :
      Reports top owners none (.emptyName sort path)
  /-- The commands that must occur before this one take up all the room. -/
  | crowded {owners : List String} {level : Level} {before after : List CommandRule}
      {rule : CommandRule} {path reason : String} (reached : top.ReachesBy owners level)
      (declared : level.commands = before ++ rule :: after)
      (demanded : rule.quantifier.demands = true)
      (full : level.quantifier.most? =
        some (before.countP fun rule => rule.quantifier.demands)) :
      Reports top owners none (.unsatisfiable rule.name path reason)
  /-- The top level has no name but the one that stands for its path. -/
  | unfilledTop {path reason : String} (demanded : top.quantifier.demands = true)
      (forbidden : ∀ rule ∈ top.commands, rule.quantifier = .zero) :
      Reports top [] none (.unsatisfiable rootPath path reason)
  | unfilled {owners : List String} {level : Level} {rule : CommandRule} {path reason : String}
      (reached : top.ReachesBy owners level) (declared : rule ∈ level.commands)
      (occurs : rule.quantifier ≠ .zero) (demanded : rule.subcommands.demands = true)
      (forbidden : ∀ below ∈ rule.commands, below.quantifier = .zero) :
      Reports top owners none (.unsatisfiable rule.name path reason)
  | belowForbidden {owners : List String} {level : Level} {rule : CommandRule} {sort : RuleSort}
      {name path reason : String} (reached : top.ReachesBy owners level)
      (declared : rule ∈ level.commands) (forbidden : rule.quantifier = .zero)
      (below : name ∈ rule.level.names sort) :
      Reports top owners (some rule.name) (.unsatisfiable name path reason)

end Level

/-! ## Texts of paths -/

theorem pathText_singleton (name : String) : pathText [name] = name := by
  simp [pathText]

theorem pathText_concat {owners : List String} (inside : owners ≠ []) (name : String) :
    pathText (owners ++ [name]) = pathText owners ++ " " ++ name := by
  simp [pathText, inside, String.intercalate_append_of_ne_nil inside]

/-- A path of several names has a space in it, which the path to the top level has not. -/
theorem pathText_eq_rootPath_iff (owners : List String) :
    pathText owners = rootPath ↔ owners = [] ∨ owners = [rootPath] := by
  rcases owners with - | ⟨name, - | ⟨second, rest⟩⟩
  · simp [pathText]
  · simp [pathText_singleton]
  · have spaced : ' ' ∈ (pathText (name :: second :: rest)).toList := by
      simp [pathText]
    have unspaced : ' ' ∉ rootPath.toList := by decide
    simp only [List.cons_ne_nil, List.cons.injEq, and_false, or_self, iff_false]
    intro same
    rw [same] at spaced
    exact unspaced spaced

theorem CommandRule.pathBelow_pathText (owners : List String) (name : String) :
    pathBelow (pathText owners) name =
      if owners = [rootPath] then name else pathText (owners ++ [name]) := by
  unfold pathBelow
  simp only [beq_iff_eq, pathText_eq_rootPath_iff]
  by_cases top : owners = []
  · subst top
    simp [pathText_singleton]
  · by_cases named : owners = [rootPath]
    · simp [named]
    · simp [top, named, pathText_concat top]

theorem CommandRule.pathBelow_eq_iff (owners : List String) (name : String) :
    pathBelow (pathText owners) name = pathText (owners ++ [name]) ↔ owners ≠ [rootPath] := by
  rw [pathBelow_pathText]
  split
  · rename_i named
    subst named
    simp only [ne_eq, not_true_eq_false, iff_false]
    intro same
    have longer := congrArg String.length same
    rw [pathText_concat (by simp), String.length_append, String.length_append] at longer
    have one : (" " : String).length = 1 := by rfl
    omega
  · rename_i other
    simp [other]

/-! ## Reported rules -/

namespace Level

theorem ReachesBy.exists_parent {top target : Level} {owners : List String} {name : String}
    (reached : top.ReachesBy (owners ++ [name]) target) :
    ∃ parent rule, top.ReachesBy owners parent ∧ rule ∈ parent.commands ∧
      rule.quantifier ≠ .zero ∧ rule.name = name ∧ rule.level = target := by
  induction owners generalizing top with
  | nil =>
      cases reached with
      | down declared occurs further =>
          cases further
          exact ⟨top, _, .here top, declared, occurs, rfl, rfl⟩
  | cons owner owners ih =>
      cases reached with
      | down declared occurs further =>
          obtain ⟨parent, rule, way, found⟩ := ih further
          exact ⟨parent, rule, .down declared occurs way, found⟩

/-- What is at fault lies where the path says, but for what lies below a command that may not
occur. -/
theorem AtFault.reports {top level : Level} {owners : List String} {error : RuleError}
    (reached : top.ReachesBy owners level) (fault : level.AtFault owners error) :
    (∃ enclosing, top.Reports enclosing none error ∧ error.path = pathText enclosing) ∨
      ∃ name, top.Reports owners (some name) error ∧
        error.path = CommandRule.pathBelow (pathText owners) name := by
  cases fault with
  | commandTwice twice => exact .inl ⟨owners, .twice reached twice, rfl⟩
  | optionTwice twice => exact .inl ⟨owners, .twice reached twice, rfl⟩
  | commandBlank declared blank =>
      exact .inl ⟨owners, .blank reached (List.mem_map_of_mem declared) blank, rfl⟩
  | optionBlank declared blank =>
      exact .inl ⟨owners, .blank reached (List.mem_map_of_mem declared) blank, rfl⟩
  | crowded declared demanded full =>
      exact .inl ⟨owners, .crowded reached declared demanded full, rfl⟩
  | unfilled demanded forbidden =>
      rcases List.eq_nil_or_concat owners with rfl | ⟨lead, name, rfl⟩
      · cases reached
        exact .inl ⟨[], .unfilledTop demanded forbidden, rfl⟩
      · rw [List.concat_eq_append] at reached ⊢
        obtain ⟨parent, rule, way, declared, occurs, rfl, rfl⟩ := reached.exists_parent
        rw [List.getLast?_concat, List.dropLast_concat, Option.getD_some]
        exact .inl ⟨lead, .unfilled way declared occurs demanded forbidden, rfl⟩
  | @belowForbidden rule name reason declared forbidden below =>
      refine .inr ⟨rule.name, ?_, rfl⟩
      rcases List.mem_append.1 below with option | command
      · have inside : name ∈ rule.level.names .option := option
        exact .belowForbidden reached declared forbidden inside
      · have inside : name ∈ rule.level.names .command := command
        exact .belowForbidden reached declared forbidden inside

end Level

/-- The path of an error names the commands around the rule that it reports, unless the rule
lies below a command that may not occur, which itself lies below a top-level command named like
the path to the top level. -/
theorem Grammar.path_of_refused {top : Level} {error : RuleError}
    (refused : Grammar.ofLevel top = .error error) :
    ∃ owners forbidden?, top.Reports owners forbidden? error ∧
      (error.path = pathText (owners ++ forbidden?.toList) ↔
        ¬ (owners = [rootPath] ∧ forbidden?.isSome = true)) ∧
      ∀ name, owners = [rootPath] → forbidden? = some name → error.path = name := by
  have found := (ofLevel_eq_error_iff ..).1 refused
  obtain ⟨owners, level, reached, fault⟩ := Level.exists_atFault_of_fault? found
  rcases fault.reports reached with ⟨enclosing, reports, path⟩ | ⟨name, reports, path⟩
  · refine ⟨enclosing, none, reports, ?_, ?_⟩
    · simp [path]
    · intro name _ given
      cases given
  · refine ⟨owners, some name, reports, ?_, ?_⟩
    · simp [path, CommandRule.pathBelow_eq_iff]
    · intro other named given
      obtain rfl := Option.some.inj given
      rw [path, CommandRule.pathBelow_pathText, if_pos named]

theorem Grammar.path_of_refused_below_nested_command :
    let force : OptionRule := ⟨"force", none, false, false, false⟩
    let add : CommandRule := ⟨"add", .zero, .zeroOrMultiple, [], [force]⟩
    let remote : CommandRule := ⟨"remote", .zeroOrOne, .zeroOrMultiple, [add], []⟩
    let top : Level := ⟨.zeroOrMultiple, [remote], []⟩
    let error : RuleError :=
      .unsatisfiable "force" "remote add" "command 'add' is quantified as zero"
    Grammar.ofLevel top = .error error ∧
      ∃ owners forbidden?, top.Reports owners forbidden? error ∧
        (error.path = pathText (owners ++ forbidden?.toList) ↔
          ¬ (owners = [rootPath] ∧ forbidden?.isSome = true)) ∧
        ∀ name, owners = [rootPath] → forbidden? = some name → error.path = name := by
  intro force add remote top error
  have refused : Grammar.ofLevel top = .error error := (ofLevel_eq_error_iff ..).2 (by decide)
  exact ⟨refused, path_of_refused refused⟩

/-- A command can be named like the path to the top level, and is then missing from a path. -/
theorem Grammar.path_lost_below_root_name :
    let fast : OptionRule := ⟨"fast", none, false, false, false⟩
    let legacy : CommandRule := ⟨"legacy", .zero, .zeroOrMultiple, [], [fast]⟩
    let root : CommandRule := ⟨"<root>", .zeroOrMultiple, .zeroOrMultiple, [legacy], []⟩
    let top : Level := ⟨.zeroOrMultiple, [root], []⟩
    ∃ error, Grammar.ofLevel top = .error error ∧ error.path = "legacy" ∧
      ∀ owners forbidden?, top.Reports owners forbidden? error →
        pathText (owners ++ forbidden?.toList) = "<root> legacy" := by
  intro fast legacy root top
  have levels : ∀ owners level, top.ReachesBy owners level →
      (owners = [] ∧ level = top) ∨ (owners = ["<root>"] ∧ level = root.level) := by
    intro owners level reached
    cases reached with
    | here => exact .inl ⟨rfl, rfl⟩
    | down declared occurs further =>
        obtain rfl := List.mem_singleton.1 declared
        cases further with
        | here => exact .inr ⟨rfl, rfl⟩
        | down inside possible _ =>
            obtain rfl := List.mem_singleton.1 inside
            exact absurd rfl possible
  refine ⟨.unsatisfiable "fast" "legacy" "command 'legacy' is quantified as zero",
    (ofLevel_eq_error_iff ..).2 (by decide), rfl, ?_⟩
  intro owners forbidden? reports
  generalize same : RuleError.unsatisfiable .. = error at reports
  cases reports with
  | twice => cases same
  | blank => cases same
  | crowded reached declared demanded full =>
      -- no level has a limit
      rcases levels _ _ reached with ⟨-, rfl⟩ | ⟨-, rfl⟩
      · cases full
      · cases full
  | unfilledTop demanded => cases demanded
  | unfilled reached declared occurs demanded =>
      rcases levels _ _ reached with ⟨-, rfl⟩ | ⟨-, rfl⟩
      · obtain rfl := List.mem_singleton.1 declared
        cases demanded
      · obtain rfl := List.mem_singleton.1 declared
        cases demanded
  | belowForbidden reached declared forbidden =>
      rcases levels _ _ reached with ⟨rfl, rfl⟩ | ⟨rfl, rfl⟩
      · obtain rfl := List.mem_singleton.1 declared
        cases forbidden
      · obtain rfl := List.mem_singleton.1 declared
        decide

end CommandLine
