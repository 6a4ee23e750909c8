import CommandLine.Cli.Word
import CommandLine.Settings
import CommandLine.Text.Blank

/-!
# Arguments of the program

The argument list names a task and gives it a command line.  Settings may be
given before the task or behind it; those behind it win.  The words are read
from left to right, and the first problem counts.

A value that is a word of its own is looked at late: when the next flag or the
command line is read at the same place, or at the end of the place.  The place
before the task ends behind the last word.  So a word that is refused on sight
is reported even if a bad value stands before it.
-/

set_option autoImplicit false

namespace CommandLine.Cli

inductive Task where
  /-- Lists the tokens of a command line. -/
  | listTokens (line : String)
  /-- Shows the tree of a command line. -/
  | showTree (line : String) (json : Bool)
  deriving DecidableEq, Repr

structure Invocation where
  settings : Settings
  task : Task
  deriving DecidableEq, Repr

/-- Why an argument list is no invocation.  Asking for help or the version is
one of the reasons. -/
inductive ArgumentError where
  | helpWanted
  | versionWanted
  /-- Nothing at all is given. -/
  | nothingGiven
  | missingTask
  | unknownTask
  | unknownArgument
  | missingLine
  | repeatedFlag
  | missingValue
  /-- A switch has a value attached. -/
  | unwantedValue
  | badValue (reason : String)
  deriving DecidableEq, Repr

/-- A flag whose value is a word of its own, and that word once it is read. -/
structure Pending where
  flag : ValueFlag
  value? : Option String
  deriving DecidableEq, Repr

structure Given where
  quote? : Option Char := none
  maxDepth? : Option Nat := none
  nextTokenValues : Bool := false
  json : Bool := false
  line? : Option String := none
  /-- The last flag that was given, if nobody has looked at its value yet. -/
  pending? : Option Pending := none
  deriving DecidableEq, Repr

/-! ## Values -/

/-- A quote is one character that neither separates words nor is part of the
spelling of an option. -/
def readQuote (text : String) : Except String Char :=
  match text.toList with
  | [char] =>
      if Text.isBlank char || char == '-' || char == '=' then
        .error ("'" ++ char.toString ++ "' cannot be used as a quote character")
      else
        .ok char
  | _ => .error "expected exactly one character"

def depthBound : Nat := Nat.pow 2 64

def readDigits (number : Nat) : List Char → Except String Nat
  | [] => .ok number
  | char :: rest =>
      if char.isDigit then
        let next := 10 * number + (char.toNat - '0'.toNat)
        if next < depthBound then readDigits next rest
        else .error "number too large to fit in target type"
      else
        .error "invalid digit found in string"

/-- A depth is written in decimal digits, with or without a plus sign. -/
def readDepth (text : String) : Except String Nat :=
  match text.toList with
  | [] => .error "cannot parse integer from empty string"
  | ['+'] => .error "invalid digit found in string"
  | '+' :: digits => readDigits 0 digits
  | digits => readDigits 0 digits

/-! ## Flags -/

def Given.has (given : Given) : ValueFlag → Bool
  | .quote => given.quote?.isSome
  | .maxDepth => given.maxDepth?.isSome

/-- Gives a flag its value, unless it has one or the value does not suit it. -/
def Given.setValue (given : Given) (flag : ValueFlag) (value : String) :
    Except ArgumentError Given :=
  if given.has flag then
    .error .repeatedFlag
  else
    match flag with
    | .quote =>
        match readQuote value with
        | .ok quote => .ok { given with quote? := some quote }
        | .error reason => .error (.badValue reason)
    | .maxDepth =>
        match readDepth value with
        | .ok depth => .ok { given with maxDepth? := some depth }
        | .error reason => .error (.badValue reason)

def Given.settle (given : Given) : Except ArgumentError Given :=
  match given.pending? with
  | none => .ok given
  | some ⟨_, none⟩ => .error .missingValue
  | some ⟨flag, some value⟩ => { given with pending? := none }.setValue flag value

def Given.turnOn (given : Given) : Switch → Except ArgumentError Given
  | .help => .error .helpWanted
  | .version => .error .versionWanted
  | .nextTokenValues =>
      if given.nextTokenValues then .error .repeatedFlag
      else .ok { given with nextTokenValues := true }
  | .json => if given.json then .error .repeatedFlag else .ok { given with json := true }

/-- Reads a flag.  One that is unknown, and a switch with a value, are refused
on sight; any other settles the value that is pending. -/
def Given.readFlag (given : Given) : Flag → Except ArgumentError Given
  | .value flag none =>
      given.settle.map fun given => { given with pending? := some ⟨flag, none⟩ }
  | .value flag (some value) => given.settle >>= fun given => given.setValue flag value
  | .switch switch none => given.settle >>= fun given => given.turnOn switch
  | .switch _ (some _) => .error .unwantedValue
  | .unknown => .error .unknownArgument

def Given.takeValue? (given : Given) (text : String) : Option Given :=
  match given.pending? with
  | some ⟨flag, none⟩ => some { given with pending? := some ⟨flag, some text⟩ }
  | _ => none

/-! ## Argument lists -/

/-- Takes a command line.  A second one is refused on sight; the first settles
the value that is pending. -/
def Given.setLine (given : Given) (line : String) : Except ArgumentError Given :=
  match given.line? with
  | none => given.settle.map fun given => { given with line? := some line }
  | some _ => .error .unknownArgument

def readBehind (task : TaskName) (given : Given) : List String → Except ArgumentError Given
  | [] => given.settle
  | text :: rest =>
      match Word.ofText (.behind task) text with
      | .plain =>
          match given.takeValue? text with
          | some given => readBehind task given rest
          | none => given.setLine text >>= fun given => readBehind task given rest
      | .separator => rest.foldlM Given.setLine given >>= Given.settle
      | .flag flag => given.readFlag flag >>= fun given => readBehind task given rest

/-- The settings given at the two places, those behind the task first. -/
def Given.settings (top behind : Given) : Settings :=
  let base : Settings := {}
  { quote := (behind.quote? <|> top.quote?).getD base.quote
    valueStyle :=
      if behind.nextTokenValues || top.nextTokenValues then .nextToken else .attached
    maxDepth := (behind.maxDepth? <|> top.maxDepth?).getD base.maxDepth }

/-- The invocation of a task by what is given at the two places.  The value that
is pending before the task is looked at last. -/
def Invocation.of (task : TaskName) (top behind : Given) : Except ArgumentError Invocation :=
  match behind.line? with
  | none => .error .missingLine
  | some line =>
      top.settle.map fun top =>
        { settings := top.settings behind
          task :=
            match task with
            | .tokens => .listTokens line
            | .ast => .showTree line behind.json }

/-- Help may be asked for on one task at most. -/
def readHelp : List String → ArgumentError
  | [] => .helpWanted
  | ["help"] => .helpWanted
  | [name] => if (TaskName.ofText? name).isSome then .helpWanted else .unknownTask
  | _ => .unknownTask

/-- No task is named; a list of switches and values still gives something. -/
def Given.withoutTask (given : Given) : ArgumentError :=
  match given.settle with
  | .error error => error
  | .ok given => if given = {} then .nothingGiven else .missingTask

/-- The first word behind two dashes cannot be the name of a task. -/
def readPlain (given : Given) : List String → ArgumentError
  | [] => given.withoutTask
  | text :: _ =>
      if text == "help" || (TaskName.ofText? text).isSome then .unknownArgument
      else .unknownTask

def readTop (given : Given) : List String → Except ArgumentError Invocation
  | [] => .error given.withoutTask
  | text :: rest =>
      match Word.ofText .top text with
      | .plain =>
          match given.takeValue? text, TaskName.ofText? text with
          | some given, _ => readTop given rest
          | none, some task =>
              readBehind task {} rest >>= fun behind => Invocation.of task given behind
          | none, none => .error (if text == "help" then readHelp rest else .unknownTask)
      | .separator => .error (readPlain given rest)
      | .flag flag => given.readFlag flag >>= fun given => readTop given rest

def Invocation.ofArguments (arguments : List String) : Except ArgumentError Invocation :=
  readTop {} arguments

end CommandLine.Cli
