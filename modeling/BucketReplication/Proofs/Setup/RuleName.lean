import BucketReplication.Proofs.Replication.Validity
import BucketReplication.Setup.NewRule
import Mathlib.Algebra.Group.Nat.Defs
import Mathlib.Data.List.Nodup
import Mathlib.Data.List.Perm.Subperm
import Mathlib.Data.Nat.Find

/-! # The name of a new rule

A rule that is given no name gets the first candidate that is still free. The candidates are
all different, so among as many of them as there are names and one more there is a free one.
A search that counts with 64 bits finds it long before the counter ends. -/

namespace BucketReplication.NewRule

/-! ## Candidates -/

theorem length_candidateName_succ (destinationName : String) (index : Nat) :
    (candidateName destinationName (index + 1)).length =
      destinationName.length + (Nat.repr (index + 2)).length := by
  rw [candidateName, String.length_append]

theorem repr_inj {first second : Nat} (same : Nat.repr first = Nat.repr second) :
    first = second := by
  have digits : Nat.toDigits 10 first = Nat.toDigits 10 second := by
    rw [← Nat.toList_repr, ← Nat.toList_repr, same]
  have read := congrArg (fun digits => Nat.ofDigitChars 10 digits 0) digits
  simpa using read

theorem candidateName_injective (destinationName : String) :
    Function.Injective (candidateName destinationName) := by
  have longer (index : Nat) :
      candidateName destinationName 0 ≠ candidateName destinationName (index + 1) := by
    intro same
    have digits : 0 < (Nat.repr (index + 2)).length := Nat.length_repr_pos
    have lengths := congrArg String.length same
    rw [length_candidateName_succ, candidateName] at lengths
    omega
  intro first second same
  cases first with
  | zero =>
      cases second with
      | zero => rfl
      | succ second => exact absurd same (longer second)
  | succ first =>
      cases second with
      | zero => exact absurd same.symm (longer first)
      | succ second =>
          rw [candidateName, candidateName, String.append_right_inj] at same
          have numbers : first + 2 = second + 2 := repr_inj same
          omega

/-! ## The first free candidate -/

/-- One candidate is the first that is none of the taken names. -/
structure FirstFree (taken : List String) (destinationName : String) (index : Nat) : Prop where
  free : candidateName destinationName index ∉ taken
  others : ∀ earlier < index, candidateName destinationName earlier ∈ taken

variable {taken : List String} {destinationName : String} {index : Nat}

theorem le_of_taken {count : Nat}
    (allTaken : ∀ index < count, candidateName destinationName index ∈ taken) :
    count ≤ taken.length := by
  have distinct : ((List.range count).map (candidateName destinationName)).Nodup :=
    List.nodup_range.map (candidateName_injective destinationName)
  have among : (List.range count).map (candidateName destinationName) ⊆ taken := by
    intro name tried
    rcases List.mem_map.1 tried with ⟨index, before, rfl⟩
    exact allTaken index (List.mem_range.1 before)
  have fewer := (List.subperm_of_subset distinct among).length_le
  rwa [List.length_map, List.length_range] at fewer

theorem FirstFree.le_distinct (firstFree : FirstFree taken destinationName index) :
    index ≤ taken.eraseDups.length :=
  le_of_taken fun earlier before => List.mem_eraseDups.2 (firstFree.others earlier before)

theorem exists_firstFree (taken : List String) (destinationName : String) :
    ∃ index, FirstFree taken destinationName index := by
  have free : ∃ index, candidateName destinationName index ∉ taken := by
    by_contra none
    have allTaken : ∀ index < taken.length + 1,
        candidateName destinationName index ∈ taken :=
      fun index _ => not_not.1 (not_exists.1 none index)
    exact absurd (le_of_taken allTaken) (Nat.not_succ_le_self _)
  exact ⟨Nat.find free, Nat.find_spec free,
    fun earlier before => not_not.1 (Nat.find_min free before)⟩

theorem chooseName_of_firstFree {rules : List Rule}
    (firstFree : FirstFree (rules.map Rule.name) destinationName index) :
    chooseName rules destinationName none = candidateName destinationName index := by
  have among : index < rules.length + 1 := by
    have fewer := le_of_taken firstFree.others
    rw [List.length_map] at fewer
    exact Nat.lt_succ_of_le fewer
  have found : (List.range (rules.length + 1)).find? ((fun candidate =>
      !(rules.map Rule.name).contains candidate) ∘ candidateName destinationName) =
        some index := by
    rw [List.find?_range_eq_some]
    refine ⟨?_, List.mem_range.2 among, fun earlier before => ?_⟩
    · simpa using firstFree.free
    · simpa using firstFree.others earlier before
  rw [chooseName, List.find?_map, found]
  rfl

/-! ## A search that counts -/

/-- Try one candidate after the other, from an index on, until one is free. There are only
so many left to try, and without a free one among them nothing is found. -/
def search (taken : List String) (destinationName : String) : (left index : Nat) → Option Nat
  | 0, _ => none
  | left + 1, index =>
    if taken.contains (candidateName destinationName index) then
      search taken destinationName left (index + 1)
    else some index

/-- As many candidates as a counter of 64 bits can give before it ends: the bare name, and
one for each number from 2 on that has a successor. -/
def candidateCount : Nat := 2 ^ 64 - 2

theorem search_of_firstFree (firstFree : FirstFree taken destinationName index)
    {left start : Nat} (behind : start ≤ index) (enough : index < start + left) :
    search taken destinationName left start = some index := by
  induction left generalizing start with
  | zero => exact absurd enough (Nat.not_lt_of_le behind)
  | succ left induction =>
      rw [search]
      rcases Nat.eq_or_lt_of_le behind with rfl | before
      · rw [if_neg (by simpa using firstFree.free)]
      · rw [if_pos (by simpa using firstFree.others start before)]
        exact induction before (by omega)

/-! ## Names that are too long -/

theorem length_candidateName_mono {earlier later : Nat} (before : earlier ≤ later) :
    (candidateName destinationName earlier).length ≤
      (candidateName destinationName later).length := by
  cases later with
  | zero => rw [Nat.le_zero.1 before]
  | succ later =>
      rw [length_candidateName_succ]
      cases earlier with
      | zero => exact Nat.le_add_right _ _
      | succ earlier =>
          have below : later + 2 < 10 ^ (Nat.repr (later + 2)).length :=
            (Nat.length_repr_le_iff Nat.length_repr_pos).1 (Nat.le_refl _)
          have fits : (Nat.repr (earlier + 2)).length ≤ (Nat.repr (later + 2)).length :=
            (Nat.length_repr_le_iff Nat.length_repr_pos).2 (by omega)
          rw [length_candidateName_succ]
          exact Nat.add_le_add_left fits _

theorem isValidName_candidateName (valid : Rule.isValidName destinationName = true)
    (index : Nat) :
    Rule.isValidName (candidateName destinationName index) = true ↔
      (candidateName destinationName index).length ≤ Rule.longestName := by
  rcases (Rule.isValidName_iff destinationName).1 valid with ⟨nonempty, _, characters⟩
  have longer : 1 ≤ (candidateName destinationName index).length :=
    Nat.le_trans nonempty (length_candidateName_mono (Nat.zero_le index))
  have allowed : ∀ c ∈ (candidateName destinationName index).toList,
      Rule.isNameCharacter c = true := by
    cases index with
    | zero => exact characters
    | succ index =>
        intro c listed
        rw [candidateName, String.toList_append, Nat.toList_repr] at listed
        rcases List.mem_append.1 listed with named | digit
        · exact characters c named
        · have isDigit : c.isDigit = true :=
            Nat.isDigit_of_mem_toDigits (by decide) (by decide) digit
          simp [Rule.isNameCharacter, Char.isAlphanum, isDigit]
  rw [Rule.isValidName_iff]
  exact ⟨fun fits => fits.2.1, fun short => ⟨longer, short, allowed⟩⟩

theorem isValidName_chooseName (rules : List Rule)
    (valid : Rule.isValidName destinationName = true) :
    Rule.isValidName (chooseName rules destinationName none) = false ↔
      ∀ index, (candidateName destinationName index).length ≤ Rule.longestName →
        candidateName destinationName index ∈ rules.map Rule.name := by
  rcases exists_firstFree (rules.map Rule.name) destinationName with ⟨chosen, firstFree⟩
  rw [chooseName_of_firstFree firstFree, ← Bool.not_eq_true, isValidName_candidateName valid]
  constructor
  · intro tooLong index short
    apply firstFree.others
    -- Behind the chosen candidate all are too long.
    refine Nat.lt_of_not_le fun behind => tooLong ?_
    exact Nat.le_trans (length_candidateName_mono behind) short
  · intro allTaken short
    exact firstFree.free (allTaken chosen short)

theorem isValidName_chooseName_of_few {rules : List Rule}
    (valid : Rule.isValidName destinationName = true)
    (room : destinationName.length < Rule.longestName)
    (few : rules.length + 1 < 10 ^ (Rule.longestName - destinationName.length)) :
    Rule.isValidName (chooseName rules destinationName none) = true := by
  rcases exists_firstFree (rules.map Rule.name) destinationName with ⟨chosen, firstFree⟩
  rw [chooseName_of_firstFree firstFree, isValidName_candidateName valid]
  have fewer := le_of_taken firstFree.others
  rw [List.length_map] at fewer
  cases chosen with
  | zero => exact Nat.le_of_lt room
  | succ index =>
      have fits : (Nat.repr (index + 2)).length ≤
          Rule.longestName - destinationName.length :=
        (Nat.length_repr_le_iff (Nat.sub_pos_of_lt room)).2 (by omega)
      rw [length_candidateName_succ]
      omega

end BucketReplication.NewRule
