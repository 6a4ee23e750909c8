import CommandLine.Token

/-!
# Trees of command lines

A tree holds one command line: its program name, the options that come before
any command, and its commands, each with options and commands of its own.  The
span of a command is not stored: it is the smallest one that contains the
command's name and everything below it.
-/

set_option autoImplicit false

namespace CommandLine

structure CommandUse where
  name : String
  nameSpan : Span
  commands : List CommandUse
  options : List OptionUse
  deriving Repr

mutual

def CommandUse.decEq : (one other : CommandUse) → Decidable (one = other)
  | ⟨name, nameSpan, commands, options⟩, ⟨otherName, otherSpan, others, otherOptions⟩ =>
      have := CommandUse.decEqAll commands others
      decidable_of_iff
        (name = otherName ∧ nameSpan = otherSpan ∧ commands = others ∧ options = otherOptions)
        (by rw [CommandUse.mk.injEq])

def CommandUse.decEqAll : (commands others : List CommandUse) → Decidable (commands = others)
  | [], [] => .isTrue rfl
  | [], _ :: _ => .isFalse (by simp)
  | _ :: _, [] => .isFalse (by simp)
  | command :: rest, other :: others =>
      have := CommandUse.decEq command other
      have := CommandUse.decEqAll rest others
      decidable_of_iff (command = other ∧ rest = others) (by rw [List.cons.injEq])

end

instance : DecidableEq CommandUse :=
  CommandUse.decEq

/-- A command line in the order of its parts. -/
structure Tree where
  source : String
  program : Value
  commands : List CommandUse
  options : List OptionUse
  deriving DecidableEq, Repr

/-- Proves a property of every command from the commands below it. -/
theorem CommandUse.induction {motive : CommandUse → Prop}
    (step : ∀ name nameSpan commands options,
      (∀ command ∈ commands, motive command) → motive ⟨name, nameSpan, commands, options⟩)
    (command : CommandUse) : motive command :=
  CommandUse.rec (motive_1 := motive) (motive_2 := fun list => ∀ command ∈ list, motive command)
    (fun name nameSpan commands options below => step name nameSpan commands options below)
    (by simp)
    (fun _ _ first rest => by simpa using ⟨first, rest⟩)
    command

mutual

/-- The smallest span that contains the name of a command and all below it. -/
def CommandUse.span : CommandUse → Span
  | ⟨_, nameSpan, commands, options⟩ =>
      options.foldl (fun covered option => covered.cover option.span)
        (CommandUse.coverAll nameSpan commands)

def CommandUse.coverAll (covered : Span) : List CommandUse → Span
  | [] => covered
  | command :: rest => CommandUse.coverAll (covered.cover command.span) rest

end

theorem CommandUse.coverAll_eq_foldl (covered : Span) (commands : List CommandUse) :
    CommandUse.coverAll covered commands =
      commands.foldl (fun covered command => covered.cover command.span) covered := by
  induction commands generalizing covered with
  | nil => rfl
  | cons command rest ih => simp [CommandUse.coverAll, ih]

theorem CommandUse.span_eq (command : CommandUse) :
    command.span =
      command.options.foldl (fun covered option => covered.cover option.span)
        (command.commands.foldl (fun covered below => covered.cover below.span)
          command.nameSpan) := by
  cases command
  rw [CommandUse.span, CommandUse.coverAll_eq_foldl]

mutual

def CommandUse.depth : CommandUse → Nat
  | ⟨_, _, commands, _⟩ => 1 + CommandUse.depthAll commands

def CommandUse.depthAll : List CommandUse → Nat
  | [] => 0
  | command :: rest => max command.depth (CommandUse.depthAll rest)

end

namespace Tree

/-- A tree spans its whole source, blanks at its ends included. -/
def span (tree : Tree) : Span :=
  ⟨0, Text.bytes tree.source.toList⟩

def depth (tree : Tree) : Nat :=
  CommandUse.depthAll tree.commands

end Tree

end CommandLine
