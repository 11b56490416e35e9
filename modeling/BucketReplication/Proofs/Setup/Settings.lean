import BucketReplication.Proofs.Accounts.Lookup
import BucketReplication.Setup.Replication

/-! # Settings that setups store

A setup rebuilds the settings of a bucket as a whole. Each side changes its own
half and carries the other one over, and the result is valid if the bucket was
and the new rule fits in. -/

namespace BucketReplication

namespace SourceSettings

theorem firstRepeated_append (earlier names : List String) (name : String) :
    firstRepeated earlier (names ++ [name]) =
      (firstRepeated earlier names).or
        (if name ∈ earlier ∨ name ∈ names then some name else none) := by
  induction names generalizing earlier with
  | nil => simp [firstRepeated]
  | cons head tail induction =>
      by_cases repeated : head ∈ earlier
      · simp [firstRepeated, repeated]
      · have grown : (name ∈ head :: earlier ∨ name ∈ tail) ↔
            (name ∈ earlier ∨ name ∈ head :: tail) := by
          simp only [List.mem_cons]
          constructor
          · rintro ((same | seen) | later)
            · exact .inr (.inl same)
            · exact .inl seen
            · exact .inr (.inr later)
          · rintro (seen | same | later)
            · exact .inl (.inr seen)
            · exact .inl (.inl same)
            · exact .inr later
        simp only [List.cons_append, firstRepeated, List.contains_iff_mem, repeated, if_false,
          induction, grown]

end SourceSettings

namespace Bucket

def keyMapping (bucket : Bucket) : KeyMapping :=
  (bucket.destinationSettings.getD .empty).keyMapping

/-- The settings of a bucket, if it has any, have no problem. -/
def IsValid (bucket : Bucket) : Prop :=
  ∀ settings, bucket.replication = some settings → settings.problem? = none

theorem isValid_new (id name : String) : (Bucket.new id name).IsValid := nofun

theorem isValid_updated {bucket : Bucket} {settings : ReplicationSettings}
    (valid : settings.problem? = none) : (bucket.updated settings).IsValid := by
  intro stored same
  cases same
  exact valid

theorem IsValid.source {bucket : Bucket} (valid : bucket.IsValid) :
    bucket.sourceSettings.bind SourceSettings.problem? = none := by
  unfold sourceSettings
  cases stored : bucket.replication with
  | none => rfl
  | some settings => exact valid settings stored

theorem rules_eq (bucket : Bucket) :
    bucket.rules = (bucket.sourceSettings.map SourceSettings.rules).getD [] := by
  unfold rules sourceSettings
  cases bucket.replication with
  | none => rfl
  | some settings =>
      unfold ReplicationSettings.rules
      cases source : settings.source with
      | none => simp [source]
      | some sourceSettings => simp [source]

theorem sourceKeyId_eq (bucket : Bucket) :
    bucket.sourceKeyId = bucket.sourceSettings.bind SourceSettings.keyId := by
  unfold sourceKeyId sourceSettings
  cases bucket.replication <;> rfl

theorem IsValid.rules {bucket : Bucket} (valid : bucket.IsValid) :
    SourceSettings.firstRepeated [] (bucket.rules.map Rule.name) = none ∧
      bucket.rules.findSome? Rule.problem? = none := by
  have source := valid.source
  rw [rules_eq]
  cases stored : bucket.sourceSettings with
  | none => exact ⟨rfl, rfl⟩
  | some settings =>
      rw [stored, Option.bind_some, SourceSettings.problem?] at source
      split at source
      · cases source
      · rename_i distinct
        exact ⟨distinct, source⟩

end Bucket

namespace Setup

variable (bucket : Bucket) (keyId : String) (rule : Rule)

/-! ## The source half -/

@[simp] theorem rules_settingsWithRule :
    (bucket.updated (settingsWithRule bucket keyId rule)).rules = bucket.rules ++ [rule] := rfl

@[simp] theorem sourceKeyId_settingsWithRule :
    (bucket.updated (settingsWithRule bucket keyId rule)).sourceKeyId = some keyId := rfl

@[simp] theorem keyMapping_settingsWithRule :
    (bucket.updated (settingsWithRule bucket keyId rule)).keyMapping = bucket.keyMapping := rfl

theorem problem?_settingsWithRule (valid : bucket.IsValid) (fine : rule.problem? = none) :
    (settingsWithRule bucket keyId rule).problem? =
      if rule.name ∈ bucket.rules.map Rule.name then some (.duplicateName rule.name)
      else none := by
  have distinct := valid.rules.1
  have flawless := valid.rules.2
  unfold ReplicationSettings.problem? settingsWithRule
  rw [Option.bind_some, SourceSettings.problem?, List.map_append, List.map_singleton,
    SourceSettings.firstRepeated_append, distinct, Option.none_or]
  by_cases repeated : rule.name ∈ bucket.rules.map Rule.name
  · rw [if_pos (.inr repeated), if_pos repeated]
  · have new : ¬ (rule.name ∈ [] ∨ rule.name ∈ bucket.rules.map Rule.name) := by
      rintro (seen | seen)
      · exact absurd seen (List.not_mem_nil)
      · exact repeated seen
    rw [if_neg new, if_neg repeated, List.findSome?_append, flawless]
    simp [fine]

/-! ## The destination half -/

variable (sourceKeyId destinationKeyId : String)

theorem problem?_settingsWithMapping (valid : bucket.IsValid) :
    (settingsWithMapping bucket sourceKeyId destinationKeyId).problem? = none :=
  valid.source

@[simp] theorem sourceSettings_settingsWithMapping :
    (bucket.updated (settingsWithMapping bucket sourceKeyId destinationKeyId)).sourceSettings =
      bucket.sourceSettings := rfl

@[simp] theorem rules_settingsWithMapping :
    (bucket.updated (settingsWithMapping bucket sourceKeyId destinationKeyId)).rules =
      bucket.rules := by
  rw [Bucket.rules_eq, Bucket.rules_eq, sourceSettings_settingsWithMapping]

@[simp] theorem sourceKeyId_settingsWithMapping :
    (bucket.updated (settingsWithMapping bucket sourceKeyId destinationKeyId)).sourceKeyId =
      bucket.sourceKeyId := by
  rw [Bucket.sourceKeyId_eq, Bucket.sourceKeyId_eq, sourceSettings_settingsWithMapping]

@[simp] theorem keyMapping_settingsWithMapping :
    (bucket.updated (settingsWithMapping bucket sourceKeyId destinationKeyId)).keyMapping =
      KeyMapping.map bucket.keyMapping sourceKeyId destinationKeyId := rfl

end Setup

end BucketReplication
