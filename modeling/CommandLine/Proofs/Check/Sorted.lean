import CommandLine.Check
import Mathlib.Data.List.Sort

/-!
# Lists sorted by a key

A check sorts its diagnostics by their places, and keeps the order in which they were found
where the place is the same.  It would get the same list by inserting them one by one, from the
last to the first: `check_eq_insertionSort`.
-/

set_option autoImplicit false

namespace CommandLine

/-- A list has the elements of another one, by a key and those of one key in their order. -/
structure SortedStably {α : Type} (key : α → Nat) (given list : List α) : Prop where
  sorted : list.Pairwise fun one next => key one ≤ key next
  perm : list.Perm given
  stable : ∀ place, list.filter (key · = place) = given.filter (key · = place)

section

variable {α : Type} (key : α → Nat)

theorem keys_trans (one next last : α) : decide (key one ≤ key next) = true →
    decide (key next ≤ key last) = true → decide (key one ≤ key last) = true := by
  simp only [decide_eq_true_eq]
  exact Nat.le_trans

theorem keys_total (one next : α) :
    (decide (key one ≤ key next) || decide (key next ≤ key one)) = true := by
  simp only [Bool.or_eq_true, decide_eq_true_eq]
  exact Nat.le_total ..

theorem sortedStably_mergeSort (given : List α) :
    SortedStably key given (given.mergeSort fun one next => key one ≤ key next) := by
  have perm := List.mergeSort_perm given fun one next => key one ≤ key next
  refine ⟨?_, perm, fun place => ?_⟩
  · simpa using List.pairwise_mergeSort (keys_trans key) (keys_total key) given
  · -- elements of one key are in order already, so the sort keeps them as they are
    have alike : (given.filter (key · = place)).Pairwise fun one next =>
        decide (key one ≤ key next) = true := by
      refine List.pairwise_of_forall_mem_list fun one inside next also => ?_
      simp only [List.mem_filter, decide_eq_true_eq] at inside also ⊢
      exact Nat.le_of_eq (inside.2.trans also.2.symm)
    have kept := (List.sublist_mergeSort (keys_trans key) (keys_total key) alike
      List.filter_sublist).filter (key · = place)
    rw [List.filter_filter] at kept
    simp only [Bool.and_self] at kept
    exact (kept.eq_of_length (perm.filter _).length_eq.symm).symm

/-- One more element in front of a list comes to stand before all that are not less. -/
theorem mergeSort_eq_insertionSort (given : List α) :
    given.mergeSort (fun one next => key one ≤ key next) =
      given.insertionSort fun one next => key one ≤ key next := by
  induction given with
  | nil => simp
  | cons first rest ih =>
      obtain ⟨front, back, whole, cut, less⟩ :=
        List.mergeSort_cons (keys_trans key) (keys_total key) first rest
      have sorted := (sortedStably_mergeSort key (first :: rest)).sorted
      rw [whole] at sorted
      have behind := (List.pairwise_cons.1 (List.pairwise_append.1 sorted).2.1).1
      have passes : ∀ other ∈ front, (decide ¬key first ≤ key other) = true := by
        simpa using less
      rw [List.insertionSort_cons, ← ih, whole, cut, List.orderedInsert_eq_take_drop,
        List.takeWhile_append_of_pos passes, List.dropWhile_append_of_pos passes]
      cases back with
      | nil => simp
      | cons next last => simp [behind next List.mem_cons_self]

end

theorem check_eq_insertionSort {level : Level} (faultless : level.fault? = none) (tree : Tree) :
    check ⟨level, faultless⟩ tree =
      (level.violations tree.span tree.commands tree.options).insertionSort
        fun diagnostic next => diagnostic.span.position ≤ next.span.position :=
  mergeSort_eq_insertionSort (fun diagnostic : Diagnostic => diagnostic.span.position) _

end CommandLine
