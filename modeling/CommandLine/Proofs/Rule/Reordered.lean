import CommandLine.Proofs.Rule.Sound
import Mathlib.Data.List.Perm.Lattice

/-!
# Rules in another order

Two levels are reordered if their rules can be paired such that paired options are the
same, and paired commands differ in the order of what lies below them at most.  Neither
level is sound without the other, and each reaches reordered levels only, so rules have
no fault in one order exactly if they have none in another (`Reordered.fault?_eq_none_iff`).

A look-up on sound levels finds the same option in any order (`Reordered.option?_eq`), and
paired commands (`Reordered.command?_cases`).
-/

set_option autoImplicit false

namespace CommandLine

namespace Level

/-- The levels differ in the order of siblings, here and below their commands, only. -/
inductive Reordered : Level → Level → Prop
  | intro {level other : Level} (pairs : List (CommandRule × CommandRule))
      (total : level.quantifier = other.quantifier)
      (options : level.options.Perm other.options)
      (left : level.commands.Perm (pairs.map Prod.fst))
      (right : other.commands.Perm (pairs.map Prod.snd))
      (names : ∀ pair ∈ pairs, pair.1.name = pair.2.name)
      (quantifiers : ∀ pair ∈ pairs, pair.1.quantifier = pair.2.quantifier)
      (below : ∀ pair ∈ pairs, Reordered pair.1.level pair.2.level) :
      Reordered level other

namespace Reordered

variable {level other : Level}

theorem symm (reordered : level.Reordered other) : other.Reordered level := by
  induction reordered with
  | @intro level other pairs total options left right names quantifiers below ih =>
      refine .intro (pairs.map Prod.swap) total.symm options.symm ?_ ?_ ?_ ?_ ?_
      · simpa [Function.comp_def] using right
      · simpa [Function.comp_def] using left
      · exact List.forall_mem_map.2 fun pair member => (names pair member).symm
      · exact List.forall_mem_map.2 fun pair member => (quantifiers pair member).symm
      · exact List.forall_mem_map.2 ih

/-- A command has its counterpart in the other order. -/
theorem exists_counterpart (reordered : level.Reordered other) {rule : CommandRule}
    (declared : rule ∈ level.commands) :
    ∃ image ∈ other.commands, rule.name = image.name ∧ rule.quantifier = image.quantifier ∧
      rule.level.Reordered image.level := by
  cases reordered with
  | intro pairs total options left right names quantifiers below =>
      obtain ⟨pair, member, rfl⟩ := List.mem_map.1 (left.mem_iff.1 declared)
      exact ⟨pair.2, right.mem_iff.2 (List.mem_map_of_mem member), names pair member,
        quantifiers pair member, below pair member⟩

/-- What reads names and quantifiers only takes the commands of both levels for the same. -/
theorem perm_map {α : Type} (reordered : level.Reordered other) (view : String → Quantifier → α) :
    (level.commands.map fun rule => view rule.name rule.quantifier).Perm
      (other.commands.map fun rule => view rule.name rule.quantifier) := by
  cases reordered with
  | intro pairs total options left right names quantifiers below =>
      refine (left.map _).trans (List.Perm.trans ?_ (right.map _).symm)
      rw [List.map_map, List.map_map]
      refine List.Perm.of_eq (List.map_congr_left fun pair member => ?_)
      exact congrArg₂ view (names pair member) (quantifiers pair member)

theorem total_eq (reordered : level.Reordered other) : level.quantifier = other.quantifier := by
  cases reordered with
  | intro pairs total => exact total

theorem options_perm (reordered : level.Reordered other) :
    level.options.Perm other.options := by
  cases reordered with
  | intro pairs total options => exact options

theorem commands_length (reordered : level.Reordered other) :
    level.commands.length = other.commands.length := by
  simpa using (reordered.perm_map fun name _ => name).length_eq

/-! ## Faults -/

theorem wellNamed (reordered : level.Reordered other) (named : level.WellNamed) :
    other.WellNamed := by
  have names := reordered.perm_map fun name _ => name
  have options := reordered.options_perm
  constructor
  · have visible : ∀ name ∈ level.commands.map CommandRule.name, Text.allBlank name = false :=
      List.forall_mem_map.2 named.commandsVisible
    exact List.forall_mem_map.1 fun name member => visible name (names.mem_iff.2 member)
  · exact names.nodup_iff.1 named.commandNames
  · exact fun rule member => named.optionsVisible rule (options.mem_iff.2 member)
  · exact (options.map OptionRule.name).nodup_iff.1 named.optionNames
  · exact (options.filterMap OptionRule.short?).nodup_iff.1 named.letters
  · intro rule member letter short second secondIn same
    exact named.lettersFree rule (options.mem_iff.2 member) letter short second
      (options.mem_iff.2 secondIn) same

theorem sound (reordered : level.Reordered other) (sound : level.Sound) : other.Sound := by
  have quantifiers := reordered.perm_map fun _ quantifier => quantifier
  refine ⟨reordered.wellNamed sound.named, ?_, ?_, ?_⟩
  · intro most limit
    have room := sound.room most (reordered.total_eq ▸ limit)
    have counts := quantifiers.countP_eq Quantifier.demands
    rw [List.countP_map, List.countP_map] at counts
    exact counts ▸ room
  · intro demanded
    obtain ⟨rule, declared, occurs⟩ := sound.fillable (reordered.total_eq ▸ demanded)
    obtain ⟨image, inside, -, same, -⟩ := reordered.exists_counterpart declared
    exact ⟨image, inside, same ▸ occurs⟩
  · intro rule declared forbidden
    obtain ⟨origin, inside, -, same, below⟩ := reordered.symm.exists_counterpart declared
    obtain ⟨noOptions, noCommands⟩ := sound.forbidden origin inside (same ▸ forbidden)
    have options : rule.options.length = origin.options.length := below.options_perm.length_eq
    have commands : rule.commands.length = origin.commands.length := below.commands_length
    rw [noOptions, List.length_nil] at options
    rw [noCommands, List.length_nil] at commands
    exact ⟨List.length_eq_zero_iff.1 options, List.length_eq_zero_iff.1 commands⟩

theorem exists_reaches (reordered : level.Reordered other) {target : Level}
    (reached : level.Reaches target) :
    ∃ image, other.Reaches image ∧ target.Reordered image := by
  induction reached generalizing other with
  | here level => exact ⟨other, .here other, reordered⟩
  | @down level target rule declared occurs further ih =>
      obtain ⟨counterpart, inside, -, same, below⟩ := reordered.exists_counterpart declared
      obtain ⟨image, reached, alike⟩ := ih below
      exact ⟨image, .down inside (same ▸ occurs) reached, alike⟩

theorem fault?_eq_none (reordered : level.Reordered other) (faultless : level.fault? = none) :
    other.fault? = none := by
  rw [fault?_eq_none_iff_sound] at faultless ⊢
  intro target reached
  obtain ⟨origin, originReached, alike⟩ := reordered.symm.exists_reaches reached
  exact alike.symm.sound (faultless origin originReached)

theorem fault?_eq_none_iff (reordered : level.Reordered other) :
    level.fault? = none ↔ other.fault? = none :=
  ⟨reordered.fault?_eq_none, reordered.symm.fault?_eq_none⟩

/-! ## Look-ups -/

theorem option?_eq (reordered : level.Reordered other) (named : level.WellNamed) (name : String)
    (dashes : Dashes) : level.option? name dashes = other.option? name dashes := by
  refine Option.ext fun rule => ?_
  rw [Level.option?_eq_some_iff named, Level.option?_eq_some_iff (reordered.wellNamed named),
    reordered.options_perm.mem_iff]

theorem command?_cases (reordered : level.Reordered other) (named : level.WellNamed)
    (name : String) :
    (level.command? name = none ∧ other.command? name = none) ∨
      ∃ rule image, level.command? name = some rule ∧ other.command? name = some image ∧
        rule.name = image.name ∧ rule.quantifier = image.quantifier ∧
        rule.level.Reordered image.level := by
  have otherNamed := reordered.wellNamed named
  cases found : level.command? name with
  | some rule =>
      obtain ⟨declared, called⟩ := mem_of_command? found
      obtain ⟨image, inside, sameName, same, below⟩ := reordered.exists_counterpart declared
      refine .inr ⟨rule, image, rfl, ?_, sameName, same, below⟩
      exact (command?_eq_some_iff otherNamed ..).2 ⟨inside, sameName ▸ called⟩
  | none =>
      refine .inl ⟨rfl, Option.eq_none_iff_forall_ne_some.2 fun image imageFound => ?_⟩
      -- the counterpart would have been found
      obtain ⟨inside, called⟩ := mem_of_command? imageFound
      obtain ⟨rule, declared, sameName, -⟩ := reordered.symm.exists_counterpart inside
      rw [(command?_eq_some_iff named ..).2 ⟨declared, sameName ▸ called⟩] at found
      cases found

end Reordered

end Level

theorem Grammar.exists_ofLevel_iff (level : Level) :
    (∃ grammar, Grammar.ofLevel level = .ok grammar) ↔ level.fault? = none := by
  constructor
  · rintro ⟨grammar, built⟩
    rw [← (Grammar.ofLevel_eq_ok_iff level grammar).1 built]
    exact grammar.faultless
  · intro faultless
    exact ⟨⟨level, faultless⟩, (Grammar.ofLevel_eq_ok_iff ..).2 rfl⟩

end CommandLine
