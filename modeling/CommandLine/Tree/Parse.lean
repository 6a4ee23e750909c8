import CommandLine.Settings
import CommandLine.Tree
import CommandLine.Tree.Error
import CommandLine.Tree.Reader

/-!
# Reading a source as a tree

The reader of a tree descends into the commands of a source.  Behind its name a
command takes further commands into itself until an option comes, and then options
until the next command, which is left to the commands around it.  Options before
any command belong to the program.

Each step returns what it read with the reader behind it, which has no more left
than the reader it was given, so that the descent ends.
-/

set_option autoImplicit false

namespace CommandLine

def SyntaxError.unexpected (expected : String) (found : Token) : SyntaxError :=
  .unexpectedToken expected found.describe found.span

/-- The value that a token gives to an option before it, if it can be one. -/
def Token.asValue? (token : Token) : Option Value :=
  match token.kind with
  | .value literal => some ⟨literal, token.span⟩
  | .command name => some ⟨⟨name, false⟩, token.span⟩
  | _ => none

/-- Whether a token lets an open command end: none is left, or a command comes
after the options of the open one. -/
def Token.closes (options : List OptionUse) : Option Token → Bool
  | none => true
  | some ⟨.command _, _⟩ => !options.isEmpty
  | some _ => false

namespace Reader

structure Taken (α : Type) (reader : Reader) where
  found : α
  after : Reader
  size_le : after.size ≤ reader.size

def Taken.map {α β : Type} {reader : Reader} (change : α → β) (taken : Taken α reader) :
    Taken β reader :=
  ⟨change taken.found, taken.after, taken.size_le⟩

/-- What was read from a later reader was read from an earlier one too. -/
def Taken.from {α : Type} {later reader : Reader} (size_le : later.size ≤ reader.size)
    (taken : Taken α later) : Taken α reader :=
  ⟨taken.found, taken.after, Nat.le_trans taken.size_le size_le⟩

/-- The next token as a value, if it can be one; else it is not taken. -/
def value? (reader : Reader) : Except SyntaxError (Taken (Option Value) reader) :=
  match _look : reader.peek with
  | .error error => .error (.lexical error)
  | .ok (next?, looked) =>
      have left := size_le_of_peek _look
      match next?.bind Token.asValue? with
      | none => .ok ⟨none, looked, left⟩
      | some value =>
          match _take : looked.advance with
          | .error error => .error (.lexical error)
          | .ok (_, after) =>
              .ok ⟨some value, after, Nat.le_trans (size_le_of_advance _take) left⟩

def option (settings : Settings) (given : OptionUse) (reader : Reader) :
    Except SyntaxError (Taken OptionUse reader) :=
  match given.value?, settings.valueStyle with
  | none, .nextToken => reader.value?.map (Taken.map fun value? => { given with value? })
  | _, _ => .ok ⟨given, reader, Nat.le_refl _⟩

mutual

def command (settings : Settings) (depth : Nat) (name : String) (nameSpan : Span)
    (reader : Reader) : Except SyntaxError (Taken CommandUse reader) :=
  if settings.maxDepth < depth then
    .error (.nestingTooDeep settings.maxDepth nameSpan)
  else
    (reader.parts settings depth [] []).map (Taken.map fun (commands, options) =>
      ⟨name, nameSpan, commands, options⟩)
termination_by (reader.size, 1)

/-- The option, or the command at a depth, whose first token has been taken,
together with the parts before it. -/
def part (settings : Settings) (depth : Nat) (commands : List CommandUse)
    (options : List OptionUse) (token : Token) (reader : Reader) :
    Except SyntaxError (Taken (List CommandUse × List OptionUse) reader) :=
  match token.kind with
  | .option given =>
      (reader.option settings given).map (Taken.map fun option =>
        (commands, options ++ [option]))
  | .command name =>
      (reader.command settings depth name token.span).map (Taken.map fun command =>
        (commands ++ [command], options))
  | _ => .error (.unexpected "a command or an option" token)
termination_by (reader.size, 2)

/-- The parts of an open command at a depth, those before the reader included. -/
def parts (settings : Settings) (depth : Nat) (commands : List CommandUse)
    (options : List OptionUse) (reader : Reader) :
    Except SyntaxError (Taken (List CommandUse × List OptionUse) reader) :=
  match _look : reader.peek with
  | .error error => .error (.lexical error)
  | .ok (next?, looked) =>
      have left := size_le_of_peek _look
      if Token.closes options next? then
        .ok ⟨(commands, options), looked, left⟩
      else
        match _take : looked.advance with
        | .error error => .error (.lexical error)
        | .ok (none, after) =>
            .ok ⟨(commands, options), after, Nat.le_trans (size_le_of_advance _take) left⟩
        | .ok (some token, after) =>
            have less := Nat.lt_of_lt_of_le (size_lt_of_advance _take) left
            match after.part settings (depth + 1) commands options token with
            | .error error => .error error
            | .ok ⟨(commands, options), later, size_le⟩ =>
                have less := Nat.lt_of_le_of_lt size_le less
                (later.parts settings depth commands options).map
                  (Taken.from (Nat.le_of_lt less))
termination_by (reader.size, 0)

end

def allParts (settings : Settings) (commands : List CommandUse) (options : List OptionUse)
    (reader : Reader) : Except SyntaxError (List CommandUse × List OptionUse) :=
  match _take : reader.advance with
  | .error error => .error (.lexical error)
  | .ok (none, _) => .ok (commands, options)
  | .ok (some token, after) =>
      match after.part settings 1 commands options token with
      | .error error => .error error
      | .ok ⟨(commands, options), later, size_le⟩ =>
          have _less := Nat.lt_of_le_of_lt size_le (size_lt_of_advance _take)
          later.allParts settings commands options
termination_by reader.size

end Reader

def Tree.parse (settings : Settings) (source : String) : Except SyntaxError Tree :=
  match (Reader.ofSource settings.quote source).advance with
  | .error error => .error (.lexical error)
  | .ok (none, _) =>
      .error (.unexpectedToken "a program name" "end of input"
        (.point (Text.bytes source.toList)))
  | .ok (some ⟨.program literal, span⟩, after) =>
      match after.allParts settings [] [] with
      | .error error => .error error
      | .ok (commands, options) =>
          .ok { source, program := ⟨literal, span⟩, commands, options }
  | .ok (some token, _) => .error (.unexpected "a program name" token)

end CommandLine
