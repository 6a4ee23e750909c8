/-!
# Sets of characters as ranges of code points

A property of characters is tabled as a list of closed ranges in ascending
order, so that a search ends at the first range that lies wholly above the
wanted code point.  `mem_iff` says that ending there loses nothing.
-/

set_option autoImplicit false

namespace CommandLine.Text

structure Range where
  first : Nat
  last : Nat
  deriving DecidableEq, Repr

/-- Each range ends before the next one begins, and none is empty. -/
def Range.ascending : List Range → Bool
  | [] => true
  | [range] => range.first ≤ range.last
  | range :: next :: rest =>
      range.first ≤ range.last && range.last < next.first && ascending (next :: rest)

/-- A search for a code point that stops at the first range above it. -/
def Range.search : List Range → Nat → Bool
  | [], _ => false
  | range :: rest, code => range.first ≤ code && (code ≤ range.last || search rest code)

theorem Range.search_iff {list : List Range} (ordered : ascending list = true) (code : Nat) :
    search list code = true ↔ ∃ range ∈ list, range.first ≤ code ∧ code ≤ range.last := by
  induction list with
  | nil => simp [search]
  | cons range rest ih =>
      cases rest with
      | nil => simp [search]
      | cons next rest =>
          simp only [ascending, Bool.and_eq_true, decide_eq_true_eq] at ordered
          have below : search (next :: rest) code = true → range.first ≤ code := by
            intro found
            simp only [search, Bool.and_eq_true, decide_eq_true_eq] at found
            omega
          rw [search, Bool.and_eq_true, Bool.or_eq_true, ih ordered.2]
          simp only [List.mem_cons, exists_eq_or_imp, decide_eq_true_eq] at *
          constructor
          · rintro ⟨above, inside | later⟩
            · exact .inl ⟨above, inside⟩
            · exact .inr later
          · rintro (inside | later)
            · exact ⟨inside.1, .inl inside.2⟩
            · exact ⟨below ((ih ordered.2).2 later), .inr later⟩

/-- A set of characters, as the ranges of their code points. -/
structure Ranges where
  list : List Range
  ascending : Range.ascending list = true

namespace Ranges

def mem (ranges : Ranges) (code : Nat) : Bool :=
  Range.search ranges.list code

theorem mem_iff (ranges : Ranges) (code : Nat) :
    ranges.mem code = true ↔ ∃ range ∈ ranges.list, range.first ≤ code ∧ code ≤ range.last :=
  Range.search_iff ranges.ascending code

end Ranges

end CommandLine.Text
