import CommandLine.Proofs.Check.Conforms
import Mathlib.Data.List.Basic

/-!
# Repetitions

A check reads siblings one after the other and compares each with those before
it.  `Once` says of the siblings that are left what such a reader will find;
`once_cons_iff` is one step of the reader, and for a reader that has seen nothing
yet `Once` is a bound on the number of occurrences.
-/

set_option autoImplicit false

namespace CommandLine

/-- None of the items left satisfies `p` behind another item that does. -/
def Once {α : Type} (p : α → Bool) (earlier left : List α) : Prop :=
  left.countP p + (earlier.any p).toNat ≤ 1

theorem once_nil_left_iff {α : Type} (p : α → Bool) (left : List α) :
    Once p [] left ↔ left.countP p ≤ 1 := by
  simp [Once]

theorem once_nil {α : Type} (p : α → Bool) (earlier : List α) : Once p earlier [] := by
  cases seen : earlier.any p <;> simp [Once, seen]

theorem once_cons_iff {α : Type} (p : α → Bool) (earlier left : List α) (item : α) :
    Once p earlier (item :: left) ↔
      (p item = true → ∀ first ∈ earlier, p first = false) ∧ Once p (earlier ++ [item]) left := by
  have unseen : (∀ first ∈ earlier, p first = false) ↔ earlier.any p = false := by
    simp
  rw [unseen]
  unfold Once
  rw [List.countP_cons, List.any_append]
  cases now : p item <;> cases seen : earlier.any p <;> simp [now]

theorem Level.repeated?_eq_none_iff (rule : CommandRule) (earlier : List CommandUse) :
    Level.repeated? rule earlier = none ↔
      (rule.quantifier.most? = some 1 → ∀ sibling ∈ earlier, rule.names sibling = false) := by
  unfold Level.repeated?
  split
  · rename_i single
    simp [single, CommandRule.names]
  · rename_i many
    simp [many]

theorem Level.repetition_eq_nil_iff (level : Level) (rule : OptionRule)
    (earlier : List OptionUse) (option : OptionUse) :
    level.repetition rule earlier option = [] ↔
      (rule.repeatable = false → ∀ first ∈ earlier, level.fallsUnder rule first = false) := by
  unfold Level.repetition
  cases rule.repeatable with
  | true => simp
  | false =>
      cases seen : earlier.find? (level.fallsUnder rule) with
      | none => simpa using seen
      | some first =>
          have member := List.mem_of_find?_eq_some seen
          have under := List.find?_some seen
          constructor
          · intro silent
            cases silent
          · intro clear
            rw [clear rfl first member] at under
            cases under

end CommandLine
