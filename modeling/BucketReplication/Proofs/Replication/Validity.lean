import BucketReplication.Replication.Settings

/-! # Valid settings

What it means that no problem is found: the checks of rules and of rule lists in
terms of names, characters and numbers. -/

namespace BucketReplication

namespace Rule

/-- The rule can be stored: it has a destination, its name is a short word of ASCII
letters, digits, `-` and `_`, and its priority is in range. -/
structure WellFormed (rule : Rule) : Prop where
  destination : rule.destinationBucketId ≠ ""
  nonempty : 1 ≤ rule.name.length
  short : rule.name.length ≤ 64
  characters : ∀ c ∈ rule.name.toList,
    ('A' ≤ c ∧ c ≤ 'Z') ∨ ('a' ≤ c ∧ c ≤ 'z') ∨ ('0' ≤ c ∧ c ≤ '9') ∨ c = '-' ∨ c = '_'
  positive : 1 ≤ rule.priority.toNat
  bounded : rule.priority.toNat ≤ 2147483647

theorem isNameCharacter_iff (c : Char) :
    isNameCharacter c = true ↔
      ('A' ≤ c ∧ c ≤ 'Z') ∨ ('a' ≤ c ∧ c ≤ 'z') ∨ ('0' ≤ c ∧ c ≤ '9') ∨ c = '-' ∨ c = '_' := by
  have ranges : isNameCharacter c =
      (decide ('A' ≤ c ∧ c ≤ 'Z') || (decide ('a' ≤ c) && decide (c ≤ 'z')) ||
        (decide ('0' ≤ c) && decide (c ≤ '9')) || decide (c = '-') || decide (c = '_')) := rfl
  rw [ranges]
  simp only [Bool.or_eq_true, Bool.and_eq_true, decide_eq_true_eq, or_assoc]

theorem isValidName_iff (name : String) :
    isValidName name = true ↔
      1 ≤ name.length ∧ name.length ≤ 64 ∧ ∀ c ∈ name.toList, isNameCharacter c = true := by
  simp only [isValidName, longestName, Bool.and_eq_true, Bool.not_eq_true',
    List.isEmpty_eq_false_iff, decide_eq_true_eq, List.all_eq_true, and_assoc,
    String.length_toList, ← List.length_pos_iff]
  exact Iff.rfl

theorem isValidPriority_iff (priority : UInt32) :
    isValidPriority priority = true ↔
      1 ≤ priority.toNat ∧ priority.toNat ≤ 2147483647 := by
  rw [isValidPriority, Bool.and_eq_true, decide_eq_true_iff, decide_eq_true_iff,
    UInt32.le_iff_toNat_le, UInt32.le_iff_toNat_le]
  exact Iff.rfl

theorem problem?_eq_none_iff (rule : Rule) : rule.problem? = none ↔ rule.WellFormed := by
  have checks : rule.problem? = none ↔
      rule.destinationBucketId ≠ "" ∧ isValidName rule.name = true ∧
        isValidPriority rule.priority = true := by
    unfold problem?
    rw [ne_eq, ← String.isEmpty_iff]
    cases rule.destinationBucketId.isEmpty <;> cases isValidName rule.name <;>
      cases isValidPriority rule.priority <;> simp
  rw [checks, isValidName_iff, isValidPriority_iff]
  simp only [isNameCharacter_iff]
  constructor
  · rintro ⟨destination, ⟨nonempty, short, characters⟩, positive, bounded⟩
    exact ⟨destination, nonempty, short, characters, positive, bounded⟩
  · rintro ⟨destination, nonempty, short, characters, positive, bounded⟩
    exact ⟨destination, ⟨nonempty, short, characters⟩, positive, bounded⟩

end Rule

namespace SourceSettings

theorem firstRepeated_eq_none_iff (earlier names : List String) :
    firstRepeated earlier names = none ↔
      names.Nodup ∧ ∀ name ∈ names, name ∉ earlier := by
  induction names generalizing earlier with
  | nil => simp [firstRepeated]
  | cons head tail induction =>
      by_cases repeated : head ∈ earlier
      · simp [firstRepeated, repeated]
      · simp only [firstRepeated, List.contains_iff_mem, if_neg repeated, induction]
        constructor
        · rintro ⟨distinct, new⟩
          have first : head ∉ tail := fun again => new head again List.mem_cons_self
          refine ⟨List.nodup_cons.2 ⟨first, distinct⟩, ?_⟩
          intro name listed
          rcases List.mem_cons.1 listed with rfl | later
          · exact repeated
          · exact fun seen => new name later (List.mem_cons_of_mem head seen)
        · rintro ⟨distinct, new⟩
          rw [List.nodup_cons] at distinct
          refine ⟨distinct.2, ?_⟩
          intro name listed seen
          rcases List.mem_cons.1 seen with rfl | before
          · exact distinct.1 listed
          · exact new name (List.mem_cons_of_mem head listed) before

theorem problem?_eq_none_iff (settings : SourceSettings) :
    settings.problem? = none ↔
      (settings.rules.map Rule.name).Nodup ∧ ∀ rule ∈ settings.rules, rule.WellFormed := by
  have distinct := firstRepeated_eq_none_iff [] (settings.rules.map Rule.name)
  unfold problem?
  cases repeated : firstRepeated [] (settings.rules.map Rule.name) with
  | some name =>
      rw [repeated] at distinct
      simp only [reduceCtorEq, false_iff] at distinct ⊢
      exact fun valid => distinct ⟨valid.1, fun _ _ => List.not_mem_nil⟩
  | none =>
      rw [repeated] at distinct
      simp only [List.findSome?_eq_none_iff, Rule.problem?_eq_none_iff]
      exact ⟨fun proper => ⟨(distinct.1 rfl).1, proper⟩, fun valid => valid.2⟩

end SourceSettings

theorem ReplicationSettings.problem?_eq_none_iff (settings : ReplicationSettings) :
    settings.problem? = none ↔
      (settings.rules.map Rule.name).Nodup ∧ ∀ rule ∈ settings.rules, rule.WellFormed := by
  unfold problem? rules
  cases settings.source with
  | none => simp
  | some source => exact source.problem?_eq_none_iff

end BucketReplication
