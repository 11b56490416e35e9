import BucketReplication.Proofs.Setup.Settings

/-! # Versions and lineages

Every record that was ever stored is a version, kept with its origin. The
versions of one bucket form a lineage: the bucket was created at the first, and
each later one followed from the record before it by one update. Revision,
rules and key mapping of the last record can be read off the lineage. -/

namespace BucketReplication

/-- What a version of a bucket came from. -/
inductive Origin where
  | created
  | replaced
  | ruleAdded (rule : Rule)
  | keyMapped (sourceKeyId destinationKeyId : String)
deriving DecidableEq

namespace Origin

def isUpdate : Origin → Bool
  | .created => false
  | .replaced => true
  | .ruleAdded _ => true
  | .keyMapped .. => true

def rule? : Origin → Option Rule
  | .ruleAdded rule => some rule
  | _ => none

def mapped? : Origin → Option (String × String)
  | .keyMapped sourceKeyId destinationKeyId => some (sourceKeyId, destinationKeyId)
  | _ => none

def Explains (bucket : Bucket) (settings : ReplicationSettings) : Origin → Prop
  | .created => False
  | .replaced => True
  | .ruleAdded rule => ∃ keyId, settings = Setup.settingsWithRule bucket keyId rule
  | .keyMapped sourceKeyId destinationKeyId =>
    settings = Setup.settingsWithMapping bucket sourceKeyId destinationKeyId

theorem Explains.isUpdate {bucket : Bucket} {settings : ReplicationSettings} {origin : Origin}
    (explains : origin.Explains bucket settings) : origin.isUpdate = true := by
  cases origin with
  | created => exact explains.elim
  | replaced => rfl
  | ruleAdded rule => rfl
  | keyMapped sourceKeyId destinationKeyId => rfl

end Origin

/-- A record as it was stored on an account. -/
structure Version where
  account : String
  bucket : Bucket
  origin : Origin
deriving DecidableEq

/-! ## The versions of one bucket -/

section

variable (versions : List Version) (account bucketId : String)

def versionsOf : List Version :=
  versions.filter fun version => version.account = account ∧ version.bucket.id = bucketId

def updatesOf : List Version :=
  (versionsOf versions account bucketId).filter fun version => version.origin.isUpdate

def originsOf : List Origin :=
  (versionsOf versions account bucketId).map Version.origin

def rulesAdded : List Rule :=
  (originsOf versions account bucketId).filterMap Origin.rule?

def keysMapped : List (String × String) :=
  (originsOf versions account bucketId).filterMap Origin.mapped?

/-- No bucket was updated as many times as a limit says. -/
def UpdatesBelow (limit : Nat) : Prop :=
  ∀ account bucketId, (updatesOf versions account bucketId).length < limit

variable {versions account bucketId}

theorem versionsOf_append (later : List Version) :
    versionsOf (versions ++ later) account bucketId =
      versionsOf versions account bucketId ++ versionsOf later account bucketId :=
  List.filter_append ..

theorem versionsOf_same {version : Version} (here : version.account = account)
    (same : version.bucket.id = bucketId) :
    versionsOf [version] account bucketId = [version] := by
  simp [versionsOf, here, same]

theorem versionsOf_other {version : Version}
    (other : ¬ (version.account = account ∧ version.bucket.id = bucketId)) :
    versionsOf [version] account bucketId = [] := by
  simp [versionsOf, other]

theorem versionsOf_continued (account bucketId : String) {later : List Version}
    (continued : versions <+: later) :
    versionsOf versions account bucketId <+: versionsOf later account bucketId :=
  continued.filter _

theorem UpdatesBelow.of_continued {later : List Version} {limit : Nat}
    (continued : versions <+: later) (few : UpdatesBelow later limit) :
    UpdatesBelow versions limit := by
  intro account bucketId
  have continues : updatesOf versions account bucketId <+: updatesOf later account bucketId :=
    (versionsOf_continued account bucketId continued).filter _
  exact Nat.lt_of_le_of_lt continues.length_le (few account bucketId)

theorem UpdatesBelow.mono {limit higher : Nat} (few : UpdatesBelow versions limit)
    (below : limit ≤ higher) : UpdatesBelow versions higher := by
  intro account bucketId
  exact Nat.lt_of_lt_of_le (few account bucketId) below

theorem UpdatesBelow.append_singleton {limit : Nat} (few : UpdatesBelow versions limit)
    (version : Version) : UpdatesBelow (versions ++ [version]) (limit + 1) := by
  intro account bucketId
  have before := few account bucketId
  have one : (updatesOf [version] account bucketId).length ≤ [version].length :=
    Nat.le_trans (List.length_filter_le ..) (List.length_filter_le ..)
  rw [updatesOf, versionsOf_append, List.filter_append, List.length_append]
  rw [updatesOf] at before one
  rw [List.length_singleton] at one
  omega

theorem UpdatesBelow.of_length {limit : Nat} (short : versions.length < limit) :
    UpdatesBelow versions limit := by
  intro account bucketId
  have fewer : (updatesOf versions account bucketId).length ≤ versions.length :=
    Nat.le_trans (List.length_filter_le ..) (List.length_filter_le ..)
  exact Nat.lt_of_le_of_lt fewer short

end

/-! ## Lineages -/

/-- The versions of a bucket on an account from its creation up to a record. -/
inductive Lineage (account : String) : List Version → Bucket → Prop where
  | created (id name : String) :
      Lineage account [⟨account, .new id name, .created⟩] (.new id name)
  | updated {versions : List Version} {bucket : Bucket} {settings : ReplicationSettings}
      {origin : Origin} (earlier : Lineage account versions bucket)
      (valid : settings.problem? = none) (explains : origin.Explains bucket settings) :
      Lineage account (versions ++ [⟨account, bucket.updated settings, origin⟩])
        (bucket.updated settings)

namespace Lineage

variable {account : String} {versions : List Version} {bucket : Bucket}

theorem last (lineage : Lineage account versions bucket) :
    versions.getLast?.map Version.bucket = some bucket := by
  cases lineage with
  | created id name => rfl
  | updated earlier valid explains => simp

theorem unique {other : Bucket} (lineage : Lineage account versions bucket)
    (second : Lineage account versions other) : bucket = other :=
  Option.some.inj (lineage.last.symm.trans second.last)

theorem ne_nil (lineage : Lineage account versions bucket) : versions ≠ [] := by
  intro none
  have last := lineage.last
  rw [none] at last
  cases last

theorem isValid (lineage : Lineage account versions bucket) : bucket.IsValid := by
  cases lineage with
  | created id name => exact Bucket.isValid_new id name
  | updated earlier valid explains => exact Bucket.isValid_updated valid

theorem length_eq (lineage : Lineage account versions bucket) :
    versions.length = 1 + (versions.filter fun version => version.origin.isUpdate).length := by
  induction lineage with
  | created id name => rfl
  | updated earlier valid explains induction =>
      have update := explains.isUpdate
      rw [List.length_append, List.filter_append, List.length_append, ← Nat.add_assoc,
        ← induction]
      simp [update]

theorem revision_eq (lineage : Lineage account versions bucket) :
    bucket.revision = UInt64.ofNat versions.length := by
  induction lineage with
  | created id name => rfl
  | updated earlier valid explains induction =>
      rw [List.length_append, List.length_singleton, UInt64.ofNat_add, ← induction]
      rfl

theorem revision_toNat (lineage : Lineage account versions bucket)
    (short : versions.length < UInt64.size) : bucket.revision.toNat = versions.length := by
  rw [lineage.revision_eq, UInt64.toNat_ofNat', Nat.mod_eq_of_lt short]

theorem length_lt (lineage : Lineage account versions bucket)
    (low : ∀ version ∈ versions, version.bucket.revision.toNat < UInt64.size - 1) :
    versions.length < UInt64.size - 1 := by
  induction lineage with
  | created id name => exact low _ (List.mem_singleton_self _)
  | @updated versions bucket settings origin earlier valid explains induction =>
      have short : versions.length < UInt64.size - 1 :=
        induction fun version recorded => low version (List.mem_append_left _ recorded)
      have whole : Lineage account (versions ++ [⟨account, bucket.updated settings, origin⟩])
          (bucket.updated settings) := .updated earlier valid explains
      -- One more version still fits, so its revision has not wrapped around.
      have counted := whole.revision_toNat (by simp; omega)
      have lastLow := low ⟨account, bucket.updated settings, origin⟩ (by simp)
      rwa [counted] at lastLow

/-! ## What setups stored -/

theorem rules_eq (lineage : Lineage account versions bucket)
    (setUp : .replaced ∉ versions.map Version.origin) :
    bucket.rules = (versions.map Version.origin).filterMap Origin.rule? := by
  induction lineage with
  | created id name => rfl
  | @updated versions bucket settings origin earlier valid explains induction =>
      rw [List.map_append, List.mem_append, not_or] at setUp
      have before := induction setUp.1
      rw [List.map_append, List.filterMap_append, ← before]
      cases origin with
      | created => exact explains.elim
      | replaced => exact absurd (List.mem_singleton_self _) setUp.2
      | ruleAdded rule =>
          rcases explains with ⟨keyId, rfl⟩
          exact Setup.rules_settingsWithRule bucket keyId rule
      | keyMapped sourceKeyId destinationKeyId =>
          cases explains
          rw [Setup.rules_settingsWithMapping]
          exact (List.append_nil _).symm

theorem keyMapping_eq (lineage : Lineage account versions bucket)
    (setUp : .replaced ∉ versions.map Version.origin) :
    bucket.keyMapping =
      ((versions.map Version.origin).filterMap Origin.mapped?).foldl
        (fun mapping entry => KeyMapping.map mapping entry.1 entry.2) .empty := by
  induction lineage with
  | created id name => rfl
  | @updated versions bucket settings origin earlier valid explains induction =>
      rw [List.map_append, List.mem_append, not_or] at setUp
      have before := induction setUp.1
      rw [List.map_append, List.filterMap_append, List.foldl_append, ← before]
      cases origin with
      | created => exact explains.elim
      | replaced => exact absurd (List.mem_singleton_self _) setUp.2
      | ruleAdded rule =>
          rcases explains with ⟨keyId, rfl⟩
          exact Setup.keyMapping_settingsWithRule bucket keyId rule
      | keyMapped sourceKeyId destinationKeyId =>
          cases explains
          exact Setup.keyMapping_settingsWithMapping bucket sourceKeyId destinationKeyId

end Lineage

end BucketReplication
