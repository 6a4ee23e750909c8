import CommandLine.Proofs.Tree.Unplaced
import Mathlib.Order.Monotone.Basic

/-!
# Ranks of parts

The rank of an offset counts the parts of a line that start there or before.  Ranks keep
the order of offsets, and that of the parts themselves strictly.  Items that are the same
up to spans have their parts at the same ranks, so that they are moved to the same items
(`ItemsLocated.map_moved_rank_eq`).
-/

set_option autoImplicit false

namespace CommandLine

/-! ## Ranks -/

/-- The number of some offsets that do not lie behind another one. -/
def rank (offsets : List Nat) (offset : Nat) : Nat :=
  offsets.countP fun other => other ≤ offset

theorem monotone_rank (offsets : List Nat) : Monotone (rank offsets) := by
  intro offset later order
  apply List.countP_mono_left
  intro other _ before
  simp only [decide_eq_true_eq] at before ⊢
  omega

theorem rank_lt_rank {offsets : List Nat} {offset later : Nat} (order : offset < later)
    (member : later ∈ offsets) : rank offsets offset < rank offsets later := by
  induction offsets with
  | nil => cases member
  | cons first rest ih =>
      have rising := monotone_rank rest (Nat.le_of_lt order)
      simp only [rank, List.countP_cons, decide_eq_true_eq] at ih rising ⊢
      rcases List.mem_cons.1 member with rfl | inside
      · rw [if_neg (by omega), if_pos (Nat.le_refl _)]
        omega
      · have above := ih inside
        split <;> split <;> omega

theorem rank_eq_zero {offsets : List Nat} {offset : Nat}
    (behind : ∀ other ∈ offsets, offset < other) : rank offsets offset = 0 := by
  rw [rank, List.countP_eq_zero]
  intro other member
  have later := behind other member
  simp only [decide_eq_true_eq]
  omega

theorem map_rank {offsets : List Nat} (increasing : offsets.Pairwise (· < ·)) :
    offsets.map (rank offsets) = List.range' 1 offsets.length := by
  induction offsets with
  | nil => rfl
  | cons first rest ih =>
      obtain ⟨behind, further⟩ := List.pairwise_cons.1 increasing
      have own : rank (first :: rest) first = 1 := by
        have none := rank_eq_zero behind
        rw [rank] at none
        rw [rank, List.countP_cons, none]
        simp
      have later : rest.map (rank (first :: rest)) = (rest.map (rank rest)).map (1 + ·) := by
        rw [List.map_map]
        refine List.map_congr_left fun offset member => ?_
        have before := behind offset member
        simp only [rank, List.countP_cons, Function.comp_apply, decide_eq_true_eq]
        rw [if_pos (Nat.le_of_lt before), Nat.add_comm]
      rw [List.map_cons, own, later, ih further, List.map_add_range', List.length_cons,
        List.range'_succ]

/-! ## Where items start -/

namespace Item

def starts : Item → List Nat
  | .command _ nameSpan => [nameSpan.position]
  | .option given =>
      given.nameSpan.position :: given.value?.toList.map fun value => value.span.position

theorem length_starts_unplaced (item : Item) :
    item.unplaced.starts.length = item.starts.length := by
  cases item <;> simp [starts, unplaced, OptionUse.unplaced, Option.toList_map]

/-- Items that are the same up to spans are the same once their parts are moved to the
same offsets. -/
theorem moved_eq_moved {item other : Item} {move otherMove : Nat → Nat}
    (same : item.unplaced = other.unplaced)
    (starts : item.starts.map move = other.starts.map otherMove) :
    item.moved move = other.moved otherMove := by
  cases item with
  | command name nameSpan =>
      cases other with
      | option given => cases same
      | command otherName otherSpan =>
          obtain ⟨rfl, -⟩ := Item.command.inj same
          simpa [moved, Item.starts, Span.moved, Span.point] using starts
  | option given =>
      cases other with
      | command otherName otherSpan => cases same
      | option otherGiven =>
          rcases given with ⟨name, nameSpan, dashes, value?⟩
          rcases otherGiven with ⟨otherName, otherNameSpan, otherDashes, otherValue?⟩
          obtain ⟨rfl, -, rfl, values⟩ := OptionUse.mk.inj (Item.option.inj same)
          obtain ⟨start, valueStarts⟩ := List.cons.inj starts
          cases value? <;> cases otherValue? <;>
            simp_all [moved, OptionUse.moved, Value.moved, Value.unplaced, Span.moved, Span.point]

theorem map_moved_eq {items others : List Item} {move otherMove : Nat → Nat}
    (same : items.map unplaced = others.map unplaced)
    (starts : (items.flatMap starts).map move = (others.flatMap Item.starts).map otherMove) :
    items.map (moved move) = others.map (moved otherMove) := by
  induction items generalizing others with
  | nil =>
      obtain rfl : others = [] := by simpa using same.symm
      rfl
  | cons item rest ih =>
      rcases others with - | ⟨other, more⟩
      · cases same
      obtain ⟨here, there⟩ := List.cons.inj same
      rw [List.flatMap_cons, List.flatMap_cons, List.map_append, List.map_append] at starts
      have length : (item.starts.map move).length = (other.starts.map otherMove).length := by
        rw [List.length_map, List.length_map, ← length_starts_unplaced, here,
          length_starts_unplaced]
      obtain ⟨own, further⟩ := List.append_inj starts length
      rw [List.map_cons, List.map_cons, moved_eq_moved here own, ih there further]

end Item

/-! ## Ranks of located items -/

/-- The parts of an item start behind an offset before it, one after the other, and before
the item ends. -/
theorem Item.Located.starts {source : String} {item : Item} (located : item.Located source) :
    item.starts.Pairwise (· < ·) ∧
      ∀ start ∈ item.starts, item.span.position ≤ start ∧ start < item.span.stop := by
  cases item with
  | command name nameSpan =>
      have forward := Span.Marks.position_lt_stop located
      simpa [Item.starts, Item.span] using forward
  | option given =>
      have placed : given.Located source := located
      have forward := placed.name.position_lt_stop
      have start := placed.position_eq
      cases same : given.value? with
      | none =>
          simp only [Item.starts, Item.span, same, OptionUse.span]
          simpa using forward
      | some value =>
          have order := placed.order value same
          have stop := placed.stop_eq same
          have valueForward := (placed.value value same).position_lt_stop
          simp only [Item.starts, Item.span, same, start, stop]
          simp
          omega

namespace ItemsLocated

variable {source : String} {items : List Item}

theorem starts_increasing (located : ItemsLocated source items) :
    (items.flatMap Item.starts).Pairwise (· < ·) := by
  refine List.pairwise_flatMap.2 ⟨fun item member => (located.each item member).starts.1, ?_⟩
  refine located.ordered.imp_of_mem ?_
  intro item next member nextMember apart start inside nextStart nextInside
  have before := ((located.each item member).starts.2 start inside).2
  have behind := ((located.each next nextMember).starts.2 nextStart nextInside).1
  omega

/-- Located items that are the same up to spans have the same ranks. -/
theorem map_moved_rank_eq {other : String} {others : List Item}
    (located : ItemsLocated source items) (otherLocated : ItemsLocated other others)
    (same : items.map Item.unplaced = others.map Item.unplaced) :
    items.map (Item.moved (rank (items.flatMap Item.starts))) =
      others.map (Item.moved (rank (others.flatMap Item.starts))) := by
  have length : (items.flatMap Item.starts).length = (others.flatMap Item.starts).length := by
    have counted : ∀ items : List Item, (items.flatMap Item.starts).length =
        ((items.map Item.unplaced).flatMap Item.starts).length := by
      intro items
      rw [List.flatMap_map, List.length_flatMap, List.length_flatMap]
      exact congrArg List.sum (List.map_congr_left fun item _ => item.length_starts_unplaced.symm)
    rw [counted, counted others, same]
  apply Item.map_moved_eq same
  rw [map_rank located.starts_increasing, map_rank otherLocated.starts_increasing, length]

end ItemsLocated

end CommandLine
