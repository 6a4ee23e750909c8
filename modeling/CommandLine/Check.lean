import CommandLine.Diagnostic
import CommandLine.Rule.Grammar
import CommandLine.Tree

/-!
# Checking a tree against a grammar

A check compares the commands and options of each level of a tree with the
rules for that level, and goes down into every command that may occur.  It
reports all violations, sorted by their place; those at one place stay in the
order in which the levels are read: the commands with what lies below them,
then what the level lacks or holds in excess, then its options.
-/

set_option autoImplicit false

namespace CommandLine

namespace Level

/-! ## Commands -/

/-- Whether a rule of the level lets its command occur.  A level that may hold
no command forbids them all; a rule of quantifier zero forbids its own. -/
def permits (level : Level) (rule : CommandRule) : Bool :=
  level.quantifier != .zero && rule.quantifier != .zero

def permitted? (level : Level) (name : String) : Option CommandRule :=
  (level.command? name).filter level.permits

def repeated? (rule : CommandRule) (earlier : List CommandUse) : Option CommandUse :=
  if rule.quantifier.most? = some 1 then
    earlier.find? fun sibling => sibling.name == rule.name
  else
    none

/-- The commands that count for the level: they may occur, and are not refused
as repetitions. -/
def admitted (level : Level) (earlier : List CommandUse) : List CommandUse → List CommandUse
  | [] => []
  | command :: rest =>
      let later := admitted level (earlier ++ [command]) rest
      match level.permitted? command.name with
      | none => later
      | some rule => if (repeated? rule earlier).isSome then later else command :: later

def lacking (level : Level) (commands : List CommandUse) : List CommandRule :=
  level.demanded.filter fun rule =>
    !commands.any fun command =>
      command.name == rule.name && (level.permitted? command.name).isSome

/-- What a level lacks or holds in excess; `scope` is the place of its owner.  A
level that lacks a command of some name is not said to lack any command. -/
def totals (level : Level) (scope : Span) (commands : List CommandUse) : List Diagnostic :=
  let lacking := level.lacking commands
  let admitted := level.admitted [] commands
  let excess :=
    match level.quantifier.most? with
    | none => []
    | some most => admitted.drop most
  lacking.map (fun rule => .missingCommand (some rule.name) scope) ++
    excess.map (fun command => .unexpectedCommand (some command.name) command.span) ++
    if admitted.length < level.quantifier.least && lacking.isEmpty then
      [.missingCommand none scope]
    else
      []

def commandFault (level : Level) (earlier : List CommandUse) (name : String) (span : Span) :
    List Diagnostic :=
  match level.command? name with
  | none => [.unknownCommand name span]
  | some rule =>
      if level.permits rule then
        (repeated? rule earlier).toList.map fun first =>
          .duplicateCommand name span first.span
      else
        [.unexpectedCommand (some name) span]

/-! ## Options -/

def fallsUnder (level : Level) (rule : OptionRule) (option : OptionUse) : Bool :=
  (level.option? option.name option.dashes).any fun found => found.name == rule.name

/-- Reports the repetition of an option that may be given once.  Occurrences
count together whatever their spelling. -/
def repetition (level : Level) (rule : OptionRule) (earlier : List OptionUse)
    (option : OptionUse) : List Diagnostic :=
  match rule.repeatable, earlier.find? (level.fallsUnder rule) with
  | false, some first => [.duplicateOption rule.name option.span first.span]
  | _, _ => []

def valueFault (rule : OptionRule) (option : OptionUse) : List Diagnostic :=
  match rule.expectsValue, option.value? with
  | true, none => [.missingOptionValue rule.name option.span]
  | false, some value => [.unexpectedOptionValue rule.name value.span]
  | _, _ => []

def optionFaults (level : Level) (earlier : List OptionUse) :
    List OptionUse → List Diagnostic
  | [] => []
  | option :: rest =>
      (match level.option? option.name option.dashes with
        | none => [.unknownOption option.name option.span]
        | some rule => level.repetition rule earlier option ++ valueFault rule option) ++
        optionFaults level (earlier ++ [option]) rest

def lackingOptions (level : Level) (options : List OptionUse) : List OptionRule :=
  level.options.filter fun rule =>
    rule.required && !options.any (level.fallsUnder rule)

def checkOptions (level : Level) (scope : Span) (options : List OptionUse) :
    List Diagnostic :=
  level.optionFaults [] options ++
    (level.lackingOptions options).map fun rule => .missingOption rule.name scope

/-! ## Levels -/

mutual

/-- Reports the violations of a command behind its earlier siblings, and of
everything below it if the command may occur. -/
def checkCommand (level : Level) (earlier : List CommandUse) :
    CommandUse → List Diagnostic
  | ⟨name, nameSpan, commands, options⟩ =>
      let span := CommandUse.span ⟨name, nameSpan, commands, options⟩
      level.commandFault earlier name span ++
        match level.permitted? name with
        | none => []
        | some rule =>
            checkEach rule.level [] commands ++ totals rule.level span commands ++
              checkOptions rule.level span options

def checkEach (level : Level) (earlier : List CommandUse) :
    List CommandUse → List Diagnostic
  | [] => []
  | command :: rest =>
      checkCommand level earlier command ++ checkEach level (earlier ++ [command]) rest

end

/-- Reports every violation among some commands and options and below them, in
the order in which they are read; `scope` is the place of their owner. -/
def violations (level : Level) (scope : Span) (commands : List CommandUse)
    (options : List OptionUse) : List Diagnostic :=
  level.checkEach [] commands ++ level.totals scope commands ++
    level.checkOptions scope options

theorem checkCommand_eq (level : Level) (earlier : List CommandUse) (command : CommandUse) :
    level.checkCommand earlier command =
      level.commandFault earlier command.name command.span ++
        match level.permitted? command.name with
        | none => []
        | some rule => rule.level.violations command.span command.commands command.options := by
  cases command
  rw [checkCommand]
  rfl

end Level

def check (grammar : Grammar) (tree : Tree) : List Diagnostic :=
  (grammar.level.violations tree.span tree.commands tree.options).mergeSort
    fun diagnostic next => diagnostic.span.position ≤ next.span.position

end CommandLine
