/-!
# Machine words

A machine holds lengths and offsets in words.  A sum that is no word either ends
the computation in a `Trap` or wraps, as the machine is told beforehand.
-/

set_option autoImplicit false

namespace CommandLine

/-- The ways in which a computation in machine words gives up. -/
inductive Trap where
  | overflow
  | underflow
  /-- The limits of a clamp are in the wrong order. -/
  | limits
  /-- A text is cut where it cannot be. -/
  | cut
  deriving DecidableEq, Repr

/-- What a machine does about a sum that is no word. -/
inductive Overflow where
  | trap
  | wrap
  deriving DecidableEq, Repr

namespace Word

def add (first second : Nat) : Except Trap Nat :=
  if first + second < UInt64.size then .ok (first + second) else .error .overflow

def sum : Overflow → Nat → Nat → Except Trap Nat
  | .trap, first, second => add first second
  | .wrap, first, second => .ok ((first + second) % UInt64.size)

theorem sum_eq_ok {first second : Nat} (fits : first + second < UInt64.size)
    (overflow : Overflow) : sum overflow first second = .ok (first + second) := by
  cases overflow with
  | trap => exact if_pos fits
  | wrap => rw [sum, Nat.mod_eq_of_lt fits]

theorem exists_sum_eq_ok_iff (overflow : Overflow) (first second : Nat) :
    (∃ total, sum overflow first second = .ok total) ↔
      overflow = .wrap ∨ first + second < UInt64.size := by
  cases overflow with
  | trap =>
      simp only [sum, add, reduceCtorEq, false_or]
      split
      · simp [*]
      · simp [*]
  | wrap => simp [sum]

end Word

end CommandLine
