/-!
# Quantifiers

A quantifier says how often a command may occur, or how many commands a set of
commands may hold in total.
-/

set_option autoImplicit false

namespace CommandLine

inductive Quantifier where
  | zero
  | zeroOrOne
  | one
  | oneOrMultiple
  | zeroOrMultiple
  deriving DecidableEq, Repr

namespace Quantifier

def least : Quantifier → Nat
  | .one | .oneOrMultiple => 1
  | .zero | .zeroOrOne | .zeroOrMultiple => 0

def most? : Quantifier → Option Nat
  | .zero => some 0
  | .zeroOrOne | .one => some 1
  | .oneOrMultiple | .zeroOrMultiple => none

def admits (quantifier : Quantifier) (count : Nat) : Bool :=
  quantifier.least ≤ count && quantifier.most?.all (count ≤ ·)

def demands (quantifier : Quantifier) : Bool :=
  0 < quantifier.least

def text : Quantifier → String
  | .zero => "zero"
  | .zeroOrOne => "zero or one"
  | .one => "exactly one"
  | .oneOrMultiple => "one or more"
  | .zeroOrMultiple => "any number"

def name : Quantifier → String
  | .zero => "zero"
  | .zeroOrOne => "zero_or_one"
  | .one => "one"
  | .oneOrMultiple => "one_or_multiple"
  | .zeroOrMultiple => "zero_or_multiple"

def all : List Quantifier :=
  [.zero, .zeroOrOne, .one, .oneOrMultiple, .zeroOrMultiple]

def ofName? (name : String) : Option Quantifier :=
  all.find? fun quantifier => quantifier.name == name

theorem ofName?_name (quantifier : Quantifier) : ofName? quantifier.name = some quantifier := by
  cases quantifier <;> decide

theorem admits_zero_iff (quantifier : Quantifier) :
    quantifier.admits 0 = true ↔ quantifier.demands = false := by
  cases quantifier <;> decide

end Quantifier

end CommandLine
