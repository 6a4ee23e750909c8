import CommandLine.Description

/-!
# Diagnostics

A diagnostic reports one violation of the rules: its kind, the command or
option concerned, its place, and for repetitions the place of the first
occurrence.
-/

set_option autoImplicit false

namespace CommandLine

inductive Violation where
  | unknownCommand
  | missingCommand
  | duplicateCommand
  | unexpectedCommand
  | unknownOption
  | missingOption
  | duplicateOption
  | missingOptionValue
  | unexpectedOptionValue
  deriving DecidableEq, Repr

/-- One violation of the rules. -/
structure Diagnostic where
  violation : Violation
  /-- The name of the command or option, unless any command would do. -/
  subject? : Option String
  span : Span
  /-- The first occurrence of what is repeated. -/
  related? : Option Span
  deriving DecidableEq, Repr

namespace Violation

/-- The violation as a word of data, which also ends its code. -/
def name : Violation → String
  | .unknownCommand => "unknown_command"
  | .missingCommand => "missing_command"
  | .duplicateCommand => "duplicate_command"
  | .unexpectedCommand => "unexpected_command"
  | .unknownOption => "unknown_option"
  | .missingOption => "missing_option"
  | .duplicateOption => "duplicate_option"
  | .missingOptionValue => "missing_option_value"
  | .unexpectedOptionValue => "unexpected_option_value"

def all : List Violation :=
  [.unknownCommand, .missingCommand, .duplicateCommand, .unexpectedCommand, .unknownOption,
    .missingOption, .duplicateOption, .missingOptionValue, .unexpectedOptionValue]

def ofName? (name : String) : Option Violation :=
  all.find? fun violation => violation.name == name

theorem ofName?_name (violation : Violation) : ofName? violation.name = some violation := by
  cases violation <;> decide

def label : Violation → String
  | .unknownCommand => "unknown command"
  | .missingCommand => "expected here"
  | .duplicateCommand => "repeated here"
  | .unexpectedCommand => "not allowed here"
  | .unknownOption => "unknown option"
  | .missingOption => "expected here"
  | .duplicateOption => "repeated here"
  | .missingOptionValue => "needs a value"
  | .unexpectedOptionValue => "unexpected value"

def about (violation : Violation) (subject : String) (span : Span) : Diagnostic :=
  ⟨violation, some subject, span, none⟩

end Violation

namespace Diagnostic

def unknownCommand (name : String) (span : Span) : Diagnostic :=
  Violation.unknownCommand.about name span

/-- A command, or any command at all, that must occur and does not. -/
def missingCommand (name? : Option String) (span : Span) : Diagnostic :=
  ⟨.missingCommand, name?, span, none⟩

def duplicateCommand (name : String) (span first : Span) : Diagnostic :=
  ⟨.duplicateCommand, some name, span, some first⟩

def unexpectedCommand (name? : Option String) (span : Span) : Diagnostic :=
  ⟨.unexpectedCommand, name?, span, none⟩

def unknownOption (name : String) (span : Span) : Diagnostic :=
  Violation.unknownOption.about name span

def missingOption (name : String) (span : Span) : Diagnostic :=
  Violation.missingOption.about name span

def duplicateOption (name : String) (span first : Span) : Diagnostic :=
  ⟨.duplicateOption, some name, span, some first⟩

def missingOptionValue (name : String) (span : Span) : Diagnostic :=
  Violation.missingOptionValue.about name span

def unexpectedOptionValue (name : String) (span : Span) : Diagnostic :=
  Violation.unexpectedOptionValue.about name span

def message (diagnostic : Diagnostic) : String :=
  let name := diagnostic.subject?.getD ""
  match diagnostic.violation, diagnostic.subject? with
  | .unknownCommand, _ => "unknown command '" ++ name ++ "'"
  | .missingCommand, some _ => "missing required command '" ++ name ++ "'"
  | .missingCommand, none => "a command is required here"
  | .duplicateCommand, _ => "command '" ++ name ++ "' may only be given once"
  | .unexpectedCommand, some _ => "command '" ++ name ++ "' is not allowed here"
  | .unexpectedCommand, none => "no further command is allowed here"
  | .unknownOption, _ => "unknown option '" ++ name ++ "'"
  | .missingOption, _ => "missing required option '" ++ name ++ "'"
  | .duplicateOption, _ => "option '" ++ name ++ "' may only be given once"
  | .missingOptionValue, _ => "option '" ++ name ++ "' requires a value"
  | .unexpectedOptionValue, _ => "option '" ++ name ++ "' does not take a value"

def advice? (diagnostic : Diagnostic) : Option String :=
  match diagnostic.violation, diagnostic.subject? with
  | .missingOptionValue, some name => some ("pass a value, as in --" ++ name ++ "=<value>")
  | .duplicateCommand, _ => some "remove the repeated occurrence"
  | .duplicateOption, _ => some "remove the repeated occurrence"
  | _, _ => none

def describe (diagnostic : Diagnostic) : Description :=
  { message := diagnostic.message
    code := problemCode ["validation", diagnostic.violation.name]
    help? := diagnostic.advice?
    labels :=
      ⟨diagnostic.violation.label, diagnostic.span⟩ ::
        diagnostic.related?.toList.map fun first => ⟨"first given here", first⟩ }

end Diagnostic

end CommandLine
