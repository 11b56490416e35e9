import BucketReplication.Proofs.Replication.Validity
import BucketReplication.Proofs.Text.Bytes
import Mathlib.Tactic.Tauto

/-! # Which problem is reported

Of all problems that settings have, the one that is reported is determined by the
order of the rules and by the order of the checks: a repeated name before all
else, then what is wrong with the first faulty rule. -/

namespace BucketReplication

namespace Rule

/-- A rule name has 1 to 64 characters, all of them ASCII letters, digits, `-` or
`_`. -/
structure IsName (name : String) : Prop where
  nonempty : 1 ≤ name.length
  short : name.length ≤ 64
  characters : ∀ c ∈ name.toList,
    ('A' ≤ c ∧ c ≤ 'Z') ∨ ('a' ≤ c ∧ c ≤ 'z') ∨ ('0' ≤ c ∧ c ≤ '9') ∨ c = '-' ∨ c = '_'

/-- What is wrong with a rule, the destination before the name and the name before
the priority. -/
inductive Fault (rule : Rule) : RuleProblem → Prop
  | missingDestination (missing : rule.destinationBucketId = "") :
      Fault rule .missingDestination
  | invalidName (destination : rule.destinationBucketId ≠ "") (unnamed : ¬ IsName rule.name) :
      Fault rule (.invalidName rule.name)
  | priorityOutOfRange (destination : rule.destinationBucketId ≠ "") (named : IsName rule.name)
      (outside : ¬ (1 ≤ rule.priority.toNat ∧ rule.priority.toNat ≤ 2147483647)) :
      Fault rule (.priorityOutOfRange rule.priority)

theorem isValidName_iff_isName (name : String) : isValidName name = true ↔ IsName name := by
  rw [isValidName_iff]
  simp only [isNameCharacter_iff]
  exact ⟨fun ⟨nonempty, short, characters⟩ => ⟨nonempty, short, characters⟩,
    fun named => ⟨named.nonempty, named.short, named.characters⟩⟩

theorem WellFormed.isName {rule : Rule} (proper : rule.WellFormed) : IsName rule.name :=
  ⟨proper.nonempty, proper.short, proper.characters⟩

theorem Fault.not_wellFormed {rule : Rule} {problem : RuleProblem} (fault : rule.Fault problem) :
    ¬ rule.WellFormed := by
  intro proper
  cases fault with
  | missingDestination missing => exact proper.destination missing
  | invalidName _ unnamed => exact unnamed proper.isName
  | priorityOutOfRange _ _ outside => exact outside ⟨proper.positive, proper.bounded⟩

theorem Fault.unique {rule : Rule} {first second : RuleProblem} (fault : rule.Fault first)
    (other : rule.Fault second) : first = second := by
  cases fault <;> cases other <;> first | rfl | contradiction

theorem fault_of_problem? {rule : Rule} {problem : RuleProblem}
    (found : rule.problem? = some problem) : rule.Fault problem := by
  unfold problem? at found
  split at found
  · rename_i missing
    cases found
    exact .missingDestination (String.isEmpty_iff.1 missing)
  · rename_i present
    have destination : rule.destinationBucketId ≠ "" := fun missing =>
      present (String.isEmpty_iff.2 missing)
    split at found
    · rename_i invalid
      cases found
      exact .invalidName destination fun named => by
        simp [(isValidName_iff_isName rule.name).2 named] at invalid
    · rename_i valid
      have named : IsName rule.name := (isValidName_iff_isName rule.name).1 (by simpa using valid)
      split at found
      · rename_i invalid
        cases found
        exact .priorityOutOfRange destination named fun inRange => by
          simp [(isValidPriority_iff rule.priority).2 inRange] at invalid
      · cases found

theorem problem?_eq_some_iff (rule : Rule) (problem : RuleProblem) :
    rule.problem? = some problem ↔ rule.Fault problem := by
  constructor
  · exact fault_of_problem?
  · intro fault
    cases found : rule.problem? with
    | none => exact absurd ((problem?_eq_none_iff rule).1 found) fault.not_wellFormed
    | some reported => rw [(fault_of_problem? found).unique fault]

def IsNameByte (byte : UInt8) : Prop :=
  (65 ≤ byte.toNat ∧ byte.toNat ≤ 90) ∨ (97 ≤ byte.toNat ∧ byte.toNat ≤ 122) ∨
    (48 ≤ byte.toNat ∧ byte.toNat ≤ 57) ∨ byte.toNat = 45 ∨ byte.toNat = 95

theorem isNameByte_iff {c : Char} (ascii : c.toNat < 128) :
    IsNameByte (UInt8.ofNat c.toNat) ↔
      ('A' ≤ c ∧ c ≤ 'Z') ∨ ('a' ≤ c ∧ c ≤ 'z') ∨ ('0' ≤ c ∧ c ≤ '9') ∨ c = '-' ∨ c = '_' := by
  have code : (UInt8.ofNat c.toNat).toNat = c.toNat := by
    rw [UInt8.toNat_ofNat', Nat.mod_eq_of_lt (by omega)]
  have atMost : ∀ first second : Char, first ≤ second ↔ first.toNat ≤ second.toNat :=
    fun _ _ => UInt32.le_iff_toNat_le
  simp only [IsNameByte, code, atMost, ← Char.toNat_inj]
  exact Iff.rfl

theorem IsName.ascii {name : String} (named : IsName name) :
    ∀ c ∈ name.toList, c.toNat < 128 := by
  intro c member
  have below : ∀ last : Char, last.toNat < 128 → c ≤ last → c.toNat < 128 :=
    fun last ascii atMost => Nat.lt_of_le_of_lt (UInt32.le_iff_toNat_le.1 atMost) ascii
  rcases named.characters c member with ⟨-, upper⟩ | ⟨-, lower⟩ | ⟨-, digit⟩ | rfl | rfl
  · exact below 'Z' (by decide) upper
  · exact below 'z' (by decide) lower
  · exact below '9' (by decide) digit
  · decide
  · decide

/-- Counted and tested by its bytes a text is a name or none just as by its
characters, for a name is ASCII either way. -/
theorem isName_iff_bytes (name : String) :
    IsName name ↔
      1 ≤ (Text.bytes name).length ∧ (Text.bytes name).length ≤ 64 ∧
        ∀ byte ∈ Text.bytes name, IsNameByte byte := by
  constructor
  · intro named
    have ascii := named.ascii
    rw [Text.bytes_of_ascii ascii, List.length_map, String.length_toList]
    refine ⟨named.nonempty, named.short, ?_⟩
    rintro _ inBytes
    rcases List.mem_map.1 inBytes with ⟨c, member, rfl⟩
    exact (isNameByte_iff (ascii c member)).2 (named.characters c member)
  · rintro ⟨nonempty, short, nameBytes⟩
    have ascii : ∀ c ∈ name.toList, c.toNat < 128 := by
      apply Text.ascii_of_bytes
      intro byte inBytes
      have inRange := nameBytes byte inBytes
      unfold IsNameByte at inRange
      omega
    rw [Text.bytes_of_ascii ascii, List.length_map, String.length_toList] at nonempty short
    refine ⟨nonempty, short, fun c member => ?_⟩
    apply (isNameByte_iff (ascii c member)).1
    apply nameBytes
    rw [Text.bytes_of_ascii ascii]
    exact List.mem_map_of_mem member

theorem wellFormed_iff (rule : Rule) :
    rule.WellFormed ↔
      rule.destinationBucketId ≠ "" ∧ IsName rule.name ∧
        1 ≤ rule.priority.toNat ∧ rule.priority.toNat ≤ 2147483647 :=
  ⟨fun proper => ⟨proper.destination, proper.isName, proper.positive, proper.bounded⟩,
    fun ⟨destination, named, positive, bounded⟩ =>
      ⟨destination, named.nonempty, named.short, named.characters, positive, bounded⟩⟩

end Rule

namespace SourceSettings

theorem firstRepeated_eq_some_iff (earlier names : List String) (name : String) :
    firstRepeated earlier names = some name ↔
      ∃ before after, names = before ++ name :: after ∧ before.Nodup ∧
        (∀ other ∈ before, other ∉ earlier) ∧ (name ∈ earlier ∨ name ∈ before) := by
  induction names generalizing earlier with
  | nil => simp [firstRepeated]
  | cons head tail induction =>
      by_cases seen : head ∈ earlier
      · have stops : firstRepeated earlier (head :: tail) = some head := by
          simp [firstRepeated, seen]
        rw [stops]
        constructor
        · rintro ⟨⟩
          exact ⟨[], tail, rfl, List.nodup_nil, List.forall_mem_nil _, .inl seen⟩
        · rintro ⟨before, after, split, -, new, -⟩
          rcases List.cons_eq_append_iff.1 split with ⟨rfl, same⟩ | ⟨others, rfl, -⟩
          · exact congrArg some (List.cons.inj same).1.symm
          · exact absurd seen (new head List.mem_cons_self)
      · have goesOn :
            firstRepeated earlier (head :: tail) = firstRepeated (head :: earlier) tail := by
          simp [firstRepeated, seen]
        rw [goesOn, induction]
        constructor
        · rintro ⟨before, after, rfl, distinct, new, repeated⟩
          have absent : head ∉ before := fun listed => new head listed List.mem_cons_self
          refine ⟨head :: before, after, rfl, List.nodup_cons.2 ⟨absent, distinct⟩, ?_, ?_⟩
          · intro other listed
            rcases List.mem_cons.1 listed with rfl | later
            · exact seen
            · exact fun known => new other later (List.mem_cons_of_mem head known)
          · rw [List.mem_cons] at repeated ⊢
            tauto
        · rintro ⟨before, after, split, distinct, new, repeated⟩
          rcases List.cons_eq_append_iff.1 split with ⟨rfl, same⟩ | ⟨others, rfl, rfl⟩
          · -- The first name has no earlier one that it could equal.
            have first : name = head := (List.cons.inj same).1
            rw [first] at repeated
            exact absurd repeated (by simp [seen])
          · have unlisted : head ∉ others ∧ others.Nodup := List.nodup_cons.1 distinct
            refine ⟨others, after, rfl, unlisted.2, ?_, ?_⟩
            · intro other listed known
              rcases List.mem_cons.1 known with rfl | known
              · exact unlisted.1 listed
              · exact new other (List.mem_cons_of_mem head listed) known
            · rw [List.mem_cons] at repeated ⊢
              tauto

/-- What is reported about a list of rules. -/
inductive Reports : List Rule → RuleProblem → Prop
  /-- The first rule whose name equals that of an earlier one, whatever else is wrong
  with the rules. -/
  | repeatedName {before : List Rule} {rule : Rule} (after : List Rule)
      (distinct : (before.map Rule.name).Nodup)
      (repeated : rule.name ∈ before.map Rule.name) :
      Reports (before ++ rule :: after) (.duplicateName rule.name)
  /-- If all names are different, the first faulty rule. -/
  | faultyRule {before : List Rule} {rule : Rule} {after : List Rule} {problem : RuleProblem}
      (distinct : ((before ++ rule :: after).map Rule.name).Nodup)
      (proper : ∀ earlier ∈ before, earlier.WellFormed) (fault : rule.Fault problem) :
      Reports (before ++ rule :: after) problem

theorem reports_of_repeated {rules : List Rule} {name : String} (problem : RuleProblem)
    (found : firstRepeated [] (rules.map Rule.name) = some name) :
    Reports rules problem ↔ problem = .duplicateName name := by
  constructor
  · intro reported
    cases reported with
    | @repeatedName before rule after distinct repeated =>
        have first : firstRepeated [] ((before ++ rule :: after).map Rule.name) = some rule.name :=
          (firstRepeated_eq_some_iff _ _ _).2
            ⟨before.map Rule.name, after.map Rule.name, by simp, distinct, by simp,
              .inr repeated⟩
        rw [first] at found
        rw [Option.some.inj found]
    | faultyRule distinct =>
        rw [(firstRepeated_eq_none_iff _ _).2 ⟨distinct, by simp⟩] at found
        cases found
  · rintro rfl
    rcases (firstRepeated_eq_some_iff _ _ _).1 found with
      ⟨earlier, others, split, distinct, -, repeated⟩
    rcases List.map_eq_append_iff.1 split with ⟨before, following, rfl, rfl, names⟩
    rcases List.map_eq_cons_iff.1 names with ⟨rule, after, rfl, rfl, rfl⟩
    exact .repeatedName after distinct (repeated.resolve_left List.not_mem_nil)

theorem reports_of_distinct {rules : List Rule} (problem : RuleProblem)
    (distinct : (rules.map Rule.name).Nodup) :
    Reports rules problem ↔ rules.findSome? Rule.problem? = some problem := by
  rw [List.findSome?_eq_some_iff]
  constructor
  · intro reported
    cases reported with
    | @repeatedName before rule after _ repeated =>
        rw [List.map_append, List.nodup_append] at distinct
        exact absurd rfl (distinct.2.2 _ repeated _ List.mem_cons_self)
    | @faultyRule before rule after _ _ proper fault =>
        exact ⟨before, rule, after, rfl, (rule.problem?_eq_some_iff problem).2 fault,
          fun earlier listed => earlier.problem?_eq_none_iff.2 (proper earlier listed)⟩
  · rintro ⟨before, rule, after, rfl, reported, passed⟩
    exact .faultyRule distinct
      (fun earlier listed => earlier.problem?_eq_none_iff.1 (passed earlier listed))
      ((rule.problem?_eq_some_iff problem).1 reported)

theorem problem?_eq_some_iff (settings : SourceSettings) (problem : RuleProblem) :
    settings.problem? = some problem ↔ Reports settings.rules problem := by
  unfold problem?
  cases found : firstRepeated [] (settings.rules.map Rule.name) with
  | some name =>
      rw [reports_of_repeated problem found, Option.some.injEq]
      exact eq_comm
  | none =>
      have distinct := ((firstRepeated_eq_none_iff _ _).1 found).1
      exact (reports_of_distinct problem distinct).symm

end SourceSettings

namespace ReplicationSettings

/-- Settings are accepted just when they have no source half, or its rules have
different names and are well-formed. Of other settings the first problem is
reported. The destination half does not matter. What is well-formed has an ASCII
name, and it is the same to count and test the bytes of the name. -/
theorem first_problem_reported (settings : ReplicationSettings) :
    (settings.problem? = none ↔
      settings.source = none ∨ ∃ source, settings.source = some source ∧
        (source.rules.map Rule.name).Nodup ∧ ∀ rule ∈ source.rules, rule.WellFormed) ∧
    (∀ problem, settings.problem? = some problem ↔
      ∃ source, settings.source = some source ∧ SourceSettings.Reports source.rules problem) ∧
    (∀ destination, { settings with destination }.problem? = settings.problem?) ∧
    (∀ rule : Rule, rule.WellFormed ↔
      rule.destinationBucketId ≠ "" ∧ Rule.IsName rule.name ∧
        1 ≤ rule.priority.toNat ∧ rule.priority.toNat ≤ 2147483647) ∧
    ∀ name, Rule.IsName name ↔
      (∀ c ∈ name.toList, c.toNat < 128) ∧
        1 ≤ (Text.bytes name).length ∧ (Text.bytes name).length ≤ 64 ∧
          ∀ byte ∈ Text.bytes name, Rule.IsNameByte byte := by
  refine ⟨?accepted, ?reported, fun _ => rfl, Rule.wellFormed_iff, ?bytes⟩
  case accepted =>
    unfold problem?
    cases settings.source with
    | none => simp
    | some source => simpa using source.problem?_eq_none_iff
  case reported =>
    intro problem
    unfold problem?
    cases settings.source with
    | none => simp
    | some source => simpa using source.problem?_eq_some_iff problem
  case bytes =>
    intro name
    rw [← Rule.isName_iff_bytes]
    exact ⟨fun named => ⟨named.ascii, named⟩, fun both => both.2⟩

end ReplicationSettings

end BucketReplication
