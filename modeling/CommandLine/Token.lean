import CommandLine.Span

/-!
# Tokens

A command line consists of a program name, commands, options and quoted values.
A token is one of these together with its place in the source.
-/

set_option autoImplicit false

namespace CommandLine

/-- The text of a program name or a value, without its quotes. -/
structure Literal where
  text : String
  quoted : Bool
  deriving DecidableEq, Repr

/-- A literal and its place in the source, quotes included. -/
structure Value where
  literal : Literal
  span : Span
  deriving DecidableEq, Repr

inductive Dashes where
  | short
  | long
  deriving DecidableEq, Repr

def Dashes.text : Dashes → String
  | .short => "-"
  | .long => "--"

def Dashes.size : Dashes → Nat
  | .short => 1
  | .long => 2

structure OptionUse where
  name : String
  /-- The dashes and the name, without the value. -/
  nameSpan : Span
  dashes : Dashes
  value? : Option Value
  deriving DecidableEq, Repr

def OptionUse.span (option : OptionUse) : Span :=
  match option.value? with
  | none => option.nameSpan
  | some value => option.nameSpan.cover value.span

inductive Token.Kind where
  | program (literal : Literal)
  | command (name : String)
  | option (option : OptionUse)
  | value (literal : Literal)
  deriving DecidableEq, Repr

structure Token where
  kind : Token.Kind
  span : Span
  deriving DecidableEq, Repr

def Token.describe (token : Token) : String :=
  match token.kind with
  | .program literal => "program name '" ++ literal.text ++ "'"
  | .command name => "command '" ++ name ++ "'"
  | .option given => "option '" ++ given.dashes.text ++ given.name ++ "'"
  | .value ⟨text, true⟩ => "quoted value \"" ++ text ++ "\""
  | .value ⟨text, false⟩ => "value '" ++ text ++ "'"

end CommandLine
