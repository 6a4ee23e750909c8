import CommandLine.Rule
import CommandLine.Rule.Error
import CommandLine.Text.Blank

/-!
# Faults of rules

A fault is the first error that a reader of the rules meets.  On each level
these are looked for in turn:

* names that are blank or repeated, commands before options, and then letters
  that are repeated or are the full name of another option;
* more commands that must occur than the level may hold;
* a level that must hold a command and has no rule for one that may occur.

Then the command rules follow in the order of their declaration.  Below a
command that may occur, its level is read in the same way; a command that may
not occur must have nothing below it.
-/

set_option autoImplicit false

namespace CommandLine

def rootPath : String := "<root>"

def pathText (owners : List String) : String :=
  if owners.isEmpty then rootPath else String.intercalate " " owners

/-- The first of some names that is blank or stands among the names before it. -/
def nameFault? (sort : RuleSort) (path : String) (earlier : List String) :
    List String → Option RuleError
  | [] => none
  | name :: rest =>
      if Text.allBlank name then some (.emptyName sort path)
      else if earlier.contains name then some (.duplicateName sort name path)
      else nameFault? sort path (name :: earlier) rest

/-- The first letter of an option that stands for an earlier option, or is the
full name of another option of the level. -/
def letterFault? (path : String) (names : List String) (earlier : List Char) :
    List OptionRule → Option RuleError
  | [] => none
  | rule :: rest =>
      match rule.short? with
      | none => letterFault? path names earlier rest
      | some letter =>
          let spelled := letter.toString
          if earlier.contains letter || (names.contains spelled && rule.name != spelled) then
            some (.duplicateName .option spelled path)
          else
            letterFault? path names (letter :: earlier) rest

namespace Level

def nameFault? (level : Level) (path : String) : Option RuleError :=
  let names := level.options.map OptionRule.name
  CommandLine.nameFault? .command path [] (level.commands.map CommandRule.name) <|>
    CommandLine.nameFault? .option path [] names <|>
    letterFault? path names [] level.options

def demanded (level : Level) : List CommandRule :=
  level.commands.filter fun rule => rule.quantifier.demands

def countFault? (level : Level) (path : String) : Option RuleError :=
  level.quantifier.most?.bind fun most =>
    (level.demanded.drop most).head?.map fun rule =>
      .unsatisfiable rule.name path
        ("it requires " ++ rule.quantifier.text ++ " occurrence(s) but " ++ path ++ " allows " ++
          level.quantifier.text ++ " command(s) in total")

/-- The level must hold a command, and none may occur.  The fault is put down
to the command that owns the level. -/
def emptyFault? (level : Level) (owners : List String) : Option RuleError :=
  if level.quantifier.demands && level.commands.all (fun rule => rule.quantifier == .zero) then
    let reason :=
      "a command is required (" ++ level.quantifier.text ++ ") but no command rule may appear"
    match owners.getLast? with
    | some name => some (.unsatisfiable name (pathText owners.dropLast) reason)
    | none => some (.unsatisfiable rootPath rootPath reason)
  else
    none

def ownFault? (level : Level) (owners : List String) : Option RuleError :=
  level.nameFault? (pathText owners) <|>
    level.countFault? (pathText owners) <|>
    level.emptyFault? owners

end Level

namespace CommandRule

/-- The path to what lies below a command, from the path to the command. -/
def pathBelow (path name : String) : String :=
  if path == rootPath then name else path ++ " " ++ name

def forbiddenFault? (rule : CommandRule) (path : String) : Option RuleError :=
  let fault (name : String) : RuleError :=
    .unsatisfiable name (pathBelow path rule.name)
      ("command '" ++ rule.name ++ "' is quantified as zero")
  match rule.options, rule.commands with
  | option :: _, _ => some (fault option.name)
  | [], command :: _ => some (fault command.name)
  | [], [] => none

mutual

def fault? (owners : List String) : CommandRule → Option RuleError
  | ⟨name, quantifier, subcommands, commands, options⟩ =>
      if quantifier = .zero then
        forbiddenFault? ⟨name, quantifier, subcommands, commands, options⟩ (pathText owners)
      else
        Level.ownFault? ⟨subcommands, commands, options⟩ (owners ++ [name]) <|>
          firstFault? (owners ++ [name]) commands

def firstFault? (owners : List String) : List CommandRule → Option RuleError
  | [] => none
  | rule :: rest => fault? owners rule <|> firstFault? owners rest

end

end CommandRule

def Level.fault? (level : Level) : Option RuleError :=
  level.ownFault? [] <|> CommandRule.firstFault? [] level.commands

end CommandLine
