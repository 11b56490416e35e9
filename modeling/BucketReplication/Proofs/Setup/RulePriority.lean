import BucketReplication.Proofs.Replication.Validity
import BucketReplication.Settings.File
import BucketReplication.Setup.NewRule
import Mathlib.Data.List.Induction

/-! # The priority of a new rule

A rule that is given no priority is placed above all others by the offset of the settings, as
far as the range allows. If every rule of a list was placed so, the priorities rise by one
offset from each rule to the next, up to the end of the range. -/

namespace BucketReplication

/-! ## Settings that pass their check -/

theorem SetupSettings.problem?_eq_none_iff (settings : SetupSettings) :
    settings.problem? = none ↔
      1 ≤ settings.defaultPriority.toNat ∧ settings.defaultPriority.toNat ≤ 2147483647 := by
  rw [← Rule.isValidPriority_iff, problem?, isValid]
  cases Rule.isValidPriority settings.defaultPriority <;> simp

theorem Settings.problem?_of_ofToml {text : String} {settings : Settings}
    (read : ofToml text = .ok settings) : settings.setup.problem? = none := by
  rw [ofToml, checked.eq_def] at read
  split at read
  · cases read
  · split at read
    · cases read
    · rename_i fine
      cases read
      exact fine

namespace NewRule

/-! ## Machine numbers -/

theorem max_toNat (first second : UInt32) :
    (max first second).toNat = max first.toNat second.toNat := by
  have chosen : max first second = if first ≤ second then second else first := rfl
  rw [chosen, apply_ite UInt32.toNat, Nat.max_def]
  simp only [UInt32.le_iff_toNat_le]

theorem min_toNat (first second : UInt32) :
    (min first second).toNat = min first.toNat second.toNat := by
  have chosen : min first second = if first ≤ second then first else second := rfl
  rw [chosen, apply_ite UInt32.toNat, Nat.min_def]
  simp only [UInt32.le_iff_toNat_le]

/-- An addition that stays at the largest number instead of wrapping around. -/
def saturatingAdd (first second : UInt32) : UInt32 :=
  if first + second < first then 4294967295 else first + second

theorem saturatingAdd_toNat (first second : UInt32) :
    (saturatingAdd first second).toNat = min (first.toNat + second.toNat) 4294967295 := by
  have firstFits := first.toNat_lt
  have secondFits := second.toNat_lt
  rw [saturatingAdd, apply_ite UInt32.toNat]
  simp only [UInt32.lt_iff_toNat_lt, UInt32.toNat_add, UInt32.reduceToNat]
  split <;> omega

/-! ## Above all others -/

theorem map_highestPriority (rules : List Rule) :
    (highestPriority rules).map UInt32.toNat =
      (rules.map fun rule => rule.priority.toNat).max? := by
  induction rules with
  | nil => rfl
  | cons rule rest induction =>
      rw [List.map_cons, List.max?_cons, ← induction, highestPriority]
      cases highestPriority rest with
      | none => rfl
      | some priority => exact congrArg some (max_toNat rule.priority priority)

variable {settings : SetupSettings} {rules : List Rule} {highest : Nat}

theorem choosePriority_toNat
    (isHighest : (rules.map fun rule => rule.priority.toNat).max? = some highest) :
    (choosePriority settings rules none).toNat =
      min (highest + settings.priorityOffset.toNat) 2147483647 := by
  rw [← map_highestPriority] at isHighest
  rcases Option.map_eq_some_iff.1 isHighest with ⟨priority, found, rfl⟩
  have chosen : choosePriority settings rules none = UInt32.ofNat
      (min (priority.toNat + settings.priorityOffset.toNat) Rule.highestPriority.toNat) := by
    unfold choosePriority
    rw [found]
  rw [chosen]
  apply UInt32.toNat_ofNat_of_lt'
  exact Nat.lt_of_le_of_lt (Nat.min_le_right _ _) (by decide)

theorem choosePriority_eq_saturating {priority : UInt32}
    (found : highestPriority rules = some priority) :
    choosePriority settings rules none =
      min (saturatingAdd priority settings.priorityOffset) Rule.highestPriority := by
  have isHighest := map_highestPriority rules
  rw [found] at isHighest
  apply UInt32.toNat_inj.1
  have largest : Rule.highestPriority.toNat = 2147483647 := rfl
  rw [choosePriority_toNat isHighest.symm, min_toNat, saturatingAdd_toNat, largest]
  omega

section

variable (wellFormed : ∀ rule ∈ rules, rule.WellFormed)

include wellFormed

theorem choosePriority_bounded (fine : settings.problem? = none) :
    1 ≤ (choosePriority settings rules none).toNat ∧
      (choosePriority settings rules none).toNat ≤ 2147483647 := by
  cases isHighest : (rules.map fun rule => rule.priority.toNat).max? with
  | none =>
      rw [List.max?_eq_none_iff, List.map_eq_nil_iff] at isHighest
      rw [isHighest]
      exact settings.problem?_eq_none_iff.1 fine
  | some highest =>
      rcases List.mem_map.1 (List.max?_mem isHighest) with ⟨rule, listed, same⟩
      have positive := (wellFormed rule listed).positive
      rw [choosePriority_toNat isHighest]
      omega

theorem le_choosePriority {rule : Rule} (listed : rule ∈ rules) :
    rule.priority ≤ choosePriority settings rules none := by
  rcases Option.isSome_iff_exists.1 (List.isSome_max?_of_mem
    (List.mem_map_of_mem listed (f := fun rule => rule.priority.toNat))) with
    ⟨highest, isHighest⟩
  have below : rule.priority.toNat ≤ highest :=
    (List.max?_eq_some_iff.1 isHighest).2 _ (List.mem_map_of_mem listed)
  have bounded := (wellFormed rule listed).bounded
  rw [UInt32.le_iff_toNat_le, choosePriority_toNat isHighest]
  omega

theorem lt_choosePriority_iff
    (isHighest : (rules.map fun rule => rule.priority.toNat).max? = some highest) :
    (∀ rule ∈ rules, rule.priority < choosePriority settings rules none) ↔
      settings.priorityOffset ≠ 0 ∧ highest ≠ 2147483647 := by
  rcases List.max?_eq_some_iff.1 isHighest with ⟨attained, above⟩
  rcases List.mem_map.1 attained with ⟨top, topListed, rfl⟩
  have bounded := (wellFormed top topListed).bounded
  simp only [UInt32.lt_iff_toNat_lt, choosePriority_toNat isHighest, ne_eq,
    ← UInt32.toNat_inj, UInt32.toNat_zero]
  constructor
  · intro below
    have strictly := below top topListed
    omega
  · rintro ⟨shifted, room⟩ rule listed
    have belowTop : rule.priority.toNat ≤ top.priority.toNat :=
      above _ (List.mem_map_of_mem listed)
    omega

end

/-! ## Rules that were all placed above others -/

/-- Every rule was given the priority that follows from those before it. -/
inductive Placed (settings : SetupSettings) : List Rule → Prop where
  | nil : Placed settings []
  | add {rules : List Rule} {rule : Rule} (earlier : Placed settings rules)
      (follows : rule.priority = choosePriority settings rules none) :
      Placed settings (rules ++ [rule])

def placedPriority (settings : SetupSettings) (index : Nat) : Nat :=
  min (settings.defaultPriority.toNat + index * settings.priorityOffset.toNat) 2147483647

theorem placedPriority_mono {earlier later : Nat} (before : earlier ≤ later) :
    placedPriority settings earlier ≤ placedPriority settings later := by
  have product := Nat.mul_le_mul_right settings.priorityOffset.toNat before
  unfold placedPriority
  omega

theorem placedPriority_succ (index : Nat) :
    min (placedPriority settings index + settings.priorityOffset.toNat) 2147483647 =
      placedPriority settings (index + 1) := by
  unfold placedPriority
  rw [Nat.add_mul, Nat.one_mul]
  omega

theorem choosePriority_of_placed (fine : settings.problem? = none)
    (placed : ∀ index rule, rules[index]? = some rule →
      rule.priority.toNat = placedPriority settings index) :
    (choosePriority settings rules none).toNat = placedPriority settings rules.length := by
  cases rules using List.reverseRecOn with
  | nil =>
      have bounded := (settings.problem?_eq_none_iff.1 fine).2
      change settings.defaultPriority.toNat = min (_ + 0 * _) 2147483647
      omega
  | append_singleton earlier last =>
      have lastPriority : last.priority.toNat = placedPriority settings earlier.length :=
        placed earlier.length last (by simp)
      have isHighest : ((earlier ++ [last]).map fun rule => rule.priority.toNat).max? =
          some (placedPriority settings earlier.length) := by
        rw [List.max?_eq_some_iff]
        refine ⟨List.mem_map.2 ⟨last, by simp, lastPriority⟩, ?_⟩
        intro priority among
        rcases List.mem_map.1 among with ⟨rule, listed, rfl⟩
        rcases List.mem_iff_getElem?.1 listed with ⟨index, found⟩
        have inside := (List.getElem?_eq_some_iff.1 found).1
        rw [List.length_append, List.length_singleton] at inside
        rw [placed index rule found]
        exact placedPriority_mono (Nat.le_of_lt_succ inside)
      rw [choosePriority_toNat isHighest, placedPriority_succ, List.length_append,
        List.length_singleton]

theorem Placed.priority_eq (fine : settings.problem? = none) (placed : Placed settings rules)
    {index : Nat} {rule : Rule} (found : rules[index]? = some rule) :
    rule.priority.toNat = placedPriority settings index := by
  induction placed generalizing index rule with
  | nil => cases found
  | @add rules last earlier follows induction =>
      rcases Nat.lt_or_ge index rules.length with before | behind
      · rw [List.getElem?_append_left before] at found
        exact induction found
      · rw [List.getElem?_append_right behind, List.getElem?_singleton] at found
        split at found
        · rename_i none
          have same : index = rules.length := by omega
          cases found
          rw [follows, same]
          exact choosePriority_of_placed fine fun _ _ => induction
        · cases found

end NewRule

end BucketReplication
