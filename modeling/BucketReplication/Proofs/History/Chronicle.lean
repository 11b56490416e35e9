import BucketReplication.Proofs.Accounts.Creation
import BucketReplication.Proofs.History.Lineage
import Mathlib.Logic.Relation

/-! # Chronicles

Accounts together with every version that was ever stored on them. A chronicle
is written by single operations, each of which changes the accounts and records
what it stored. As long as no id is given out twice, each bucket is the end of
the lineage of its versions, whatever was written. -/

namespace BucketReplication

structure Chronicle where
  accounts : Accounts
  versions : List Version
deriving DecidableEq

namespace Chronicle

def start (ids : List String) : Chronicle := ⟨Accounts.start ids, []⟩

/-- A handle is a snapshot that was taken when a number of versions were there. -/
structure Known (chronicle : Chronicle) (handle : Handle) (count : Nat) : Prop where
  past : count ≤ chronicle.versions.length
  lineage : Lineage handle.account
    (versionsOf (chronicle.versions.take count) handle.account handle.bucket.id) handle.bucket

def Current (chronicle : Chronicle) (handle : Handle) : Prop :=
  chronicle.accounts.bucket? handle.account handle.bucket.id = some handle.bucket

/-! ## Writing -/

/-- What an update is meant to store. A setup starts from one of the handles in
use and depends on its revision. -/
inductive Intent (used : Handle → Prop) :
    (account bucketId : String) → UInt64 → ReplicationSettings → Origin → Prop where
  | replaced (account bucketId : String) (revision : UInt64) (settings : ReplicationSettings) :
      Intent used account bucketId revision settings .replaced
  | ruleAdded {source : Handle} (held : used source) (keyId : String) (rule : Rule) :
      Intent used source.account source.bucket.id source.bucket.revision
        (Setup.settingsWithRule source.bucket keyId rule) (.ruleAdded rule)
  | keyMapped {destination : Handle} (held : used destination)
      (sourceKeyId destinationKeyId : String) :
      Intent used destination.account destination.bucket.id destination.bucket.revision
        (Setup.settingsWithMapping destination.bucket sourceKeyId destinationKeyId)
        (.keyMapped sourceKeyId destinationKeyId)

/-- One operation that succeeds. -/
inductive Write (used : Handle → Prop) (before : Chronicle) : Chronicle → Prop where
  | createBucket {account name : String} {bucket : Bucket} {after : Accounts}
      (created : before.accounts.createBucket account name = (.ok bucket, after)) :
      Write used before ⟨after, before.versions ++ [⟨account, bucket, .created⟩]⟩
  | createKey {account : String} {request : KeyRequest} {key : ApplicationKey}
      {after : Accounts}
      (created : before.accounts.createKey account request = (.ok key, after)) :
      Write used before ⟨after, before.versions⟩
  | deleteKey (account keyId : String) :
      Write used before ⟨(before.accounts.deleteKey account keyId).2, before.versions⟩
  | update {account bucketId : String} {revision : UInt64} {settings : ReplicationSettings}
      {origin : Origin} {bucket : Bucket} {after : Accounts}
      (intent : Intent used account bucketId revision settings origin)
      (updated : before.accounts.updateBucket account bucketId revision settings =
        (.ok bucket, after)) :
      Write used before ⟨after, before.versions ++ [⟨account, bucket, origin⟩]⟩

abbrev Writes (used : Handle → Prop) : Chronicle → Chronicle → Prop :=
  Relation.ReflTransGen (Write used)

structure Extends (before after : Chronicle) : Prop where
  versions : before.versions <+: after.versions
  ids : before.accounts.Grows after.accounts

/-- No id was given out twice, and no bucket was updated so often that its
revision reached the end of its range. -/
structure Orderly (chronicle : Chronicle) : Prop where
  distinct : chronicle.accounts.IdsDistinct
  few : UpdatesBelow chronicle.versions (UInt64.size - 1)

/-- Each bucket is the end of the lineage of its versions, and only buckets have
versions. -/
structure Coherent (chronicle : Chronicle) : Prop where
  lineage : ∀ {account id : String} {bucket : Bucket},
    chronicle.accounts.bucket? account id = some bucket →
      Lineage account (versionsOf chronicle.versions account id) bucket
  absent : ∀ {account id : String}, chronicle.accounts.bucket? account id = none →
    versionsOf chronicle.versions account id = []
  listed : chronicle.accounts.Listed

variable {used : Handle → Prop} {before between after : Chronicle}

/-! ## What is kept -/

namespace Extends

theorem refl (chronicle : Chronicle) : Extends chronicle chronicle :=
  ⟨List.prefix_rfl, .refl _⟩

theorem trans (first : Extends before between) (second : Extends between after) :
    Extends before after :=
  ⟨first.versions.trans second.versions, first.ids.trans second.ids⟩

theorem orderly (continued : Extends before after) (orderly : after.Orderly) :
    before.Orderly :=
  ⟨continued.ids.idsDistinct orderly.distinct, orderly.few.of_continued continued.versions⟩

theorem known (continued : Extends before after) {handle : Handle} {count : Nat}
    (known : before.Known handle count) : after.Known handle count := by
  rcases continued.versions with ⟨later, same⟩
  constructor
  · rw [← same, List.length_append]
    exact Nat.le_add_right_of_le known.past
  · rw [← same, List.take_append_of_le_length known.past]
    exact known.lineage

end Extends

theorem Write.continued (write : Write used before after) : Extends before after := by
  cases write with
  | createBucket created =>
      exact ⟨List.prefix_append _ _, Accounts.createBucket_grows created⟩
  | createKey created => exact ⟨List.prefix_rfl, Accounts.createKey_grows created⟩
  | deleteKey account keyId =>
      exact ⟨List.prefix_rfl, Accounts.deleteKey_grows before.accounts account keyId⟩
  | update intent updated =>
      exact ⟨List.prefix_append _ _, Accounts.updateBucket_grows updated⟩

theorem writes_continued (writes : Writes used before after) : Extends before after := by
  induction writes with
  | refl => exact .refl before
  | tail earlier write induction => exact induction.trans write.continued

/-! ## Coherence -/

theorem coherent_start (ids : List String) : Coherent (start ids) where
  lineage found := by cases found
  absent _ := rfl
  listed := Accounts.listed_start ids

namespace Coherent

variable {chronicle : Chronicle} {account : String} {bucket : Bucket} {handle : Handle}
  {count : Nat}

theorem length_eq (coherent : chronicle.Coherent) {id : String}
    (found : chronicle.accounts.bucket? account id = some bucket) :
    (versionsOf chronicle.versions account id).length =
      1 + (updatesOf chronicle.versions account id).length :=
  (coherent.lineage found).length_eq

theorem length_lt (coherent : chronicle.Coherent) (orderly : chronicle.Orderly) {id : String}
    (found : chronicle.accounts.bucket? account id = some bucket) :
    (versionsOf chronicle.versions account id).length < UInt64.size := by
  have few := orderly.few account id
  rw [coherent.length_eq found]
  omega

theorem known (coherent : chronicle.Coherent) (current : chronicle.Current handle) :
    chronicle.Known handle chronicle.versions.length := by
  refine ⟨Nat.le_refl _, ?_⟩
  rw [List.take_length]
  exact coherent.lineage current

theorem exists_stored (coherent : chronicle.Coherent) (known : chronicle.Known handle count) :
    ∃ stored, chronicle.accounts.bucket? handle.account handle.bucket.id = some stored := by
  cases found : chronicle.accounts.bucket? handle.account handle.bucket.id with
  | some stored => exact ⟨stored, rfl⟩
  | none =>
      have none := coherent.absent found
      have part := versionsOf_continued handle.account handle.bucket.id
        (List.take_prefix count chronicle.versions)
      rw [none, List.prefix_nil] at part
      exact absurd part known.lineage.ne_nil

theorem eq_stored (coherent : chronicle.Coherent) (orderly : chronicle.Orderly)
    (known : chronicle.Known handle count) {stored : Bucket}
    (found : chronicle.accounts.bucket? handle.account handle.bucket.id = some stored)
    (same : stored.revision = handle.bucket.revision) : stored = handle.bucket := by
  have short := coherent.length_lt orderly found
  have part := versionsOf_continued handle.account handle.bucket.id
    (List.take_prefix count chronicle.versions)
  have full := coherent.lineage found
  -- The revision counts the versions, so the snapshot has seen all of them.
  have counted := full.revision_toNat short
  rw [same, known.lineage.revision_toNat (Nat.lt_of_le_of_lt part.length_le short)] at counted
  have whole := part.eq_of_length counted
  rw [← whole] at full
  exact full.unique known.lineage

theorem explains (coherent : chronicle.Coherent) (orderly : chronicle.Orderly)
    (known : ∀ handle, used handle → ∃ count, chronicle.Known handle count)
    {bucketId : String} {settings : ReplicationSettings} {origin : Origin} {stored : Bucket}
    (intent : Intent used account bucketId stored.revision settings origin)
    (found : chronicle.accounts.bucket? account bucketId = some stored) :
    origin.Explains stored settings := by
  generalize atRevision : stored.revision = revision at intent
  cases intent with
  | replaced => trivial
  | ruleAdded held keyId rule =>
      rcases known _ held with ⟨count, snapshot⟩
      rw [coherent.eq_stored orderly snapshot found atRevision]
      exact ⟨keyId, rfl⟩
  | keyMapped held sourceKeyId destinationKeyId =>
      rcases known _ held with ⟨count, snapshot⟩
      rw [coherent.eq_stored orderly snapshot found atRevision]
      rfl

theorem recorded (coherent : before.Coherent) {accounts : Accounts} {origin : Origin}
    (listed : accounts.Listed)
    (placed : ∀ other id, accounts.bucket? other id =
      if account = other ∧ bucket.id = id then some bucket
      else before.accounts.bucket? other id)
    (continues : Lineage account
      (versionsOf before.versions account bucket.id ++ [⟨account, bucket, origin⟩]) bucket) :
    Coherent ⟨accounts, before.versions ++ [⟨account, bucket, origin⟩]⟩ := by
  refine ⟨?_, ?_, listed⟩
  · intro other id stored found
    dsimp only at found ⊢
    rw [placed] at found
    rw [versionsOf_append]
    split at found
    · rename_i here
      rcases here with ⟨rfl, rfl⟩
      cases found
      rwa [versionsOf_same rfl rfl]
    · rename_i elsewhere
      rw [versionsOf_other elsewhere, List.append_nil]
      exact coherent.lineage found
  · intro other id missing
    dsimp only at missing ⊢
    rw [placed] at missing
    rw [versionsOf_append]
    split at missing
    · cases missing
    · rename_i elsewhere
      rw [versionsOf_other elsewhere, List.append_nil]
      exact coherent.absent missing

theorem rekeyed (coherent : before.Coherent) {accounts : Accounts} (listed : accounts.Listed)
    (kept : ∀ other id, accounts.bucket? other id = before.accounts.bucket? other id) :
    Coherent ⟨accounts, before.versions⟩ := by
  refine ⟨?_, ?_, listed⟩
  · intro other id stored found
    exact coherent.lineage ((kept other id).symm.trans found)
  · intro other id missing
    exact coherent.absent ((kept other id).symm.trans missing)

end Coherent

theorem Write.coherent (write : Write used before after) (coherent : before.Coherent)
    (orderly : after.Orderly)
    (known : ∀ handle, used handle → ∃ count, before.Known handle count) : after.Coherent := by
  have orderlyBefore : before.Orderly := write.continued.orderly orderly
  cases write with
  | createBucket created =>
      have listed := Accounts.createBucket_listed created coherent.listed
      have fresh := Accounts.createBucket_fresh created coherent.listed orderly.distinct
      refine coherent.recorded listed (Accounts.bucket?_createBucket created) ?_
      rw [coherent.absent fresh, (Accounts.createBucket_ok created).1]
      exact .created _ _
  | createKey created =>
      exact coherent.rekeyed (Accounts.createKey_listed created coherent.listed)
        (Accounts.bucket?_createKey created)
  | deleteKey account keyId =>
      exact coherent.rekeyed (Accounts.deleteKey_listed account keyId coherent.listed)
        (Accounts.bucket?_deleteKey before.accounts account keyId)
  | update intent updated =>
      have listed := Accounts.updateBucket_listed updated coherent.listed
      have sameId := Accounts.updateBucket_id updated
      rcases Accounts.updateBucket_ok updated with ⟨valid, stored, found, rfl, same, _⟩
      have explains := coherent.explains orderlyBefore known intent found
      refine coherent.recorded listed (Accounts.bucket?_updateBucket updated) ?_
      rw [sameId, same]
      exact .updated (coherent.lineage found) valid explains

theorem writes_coherent (writes : Writes used before after) (coherent : before.Coherent)
    (orderly : after.Orderly)
    (known : ∀ handle, used handle → ∃ count, before.Known handle count) : after.Coherent := by
  induction writes with
  | refl => exact coherent
  | tail earlier write induction =>
      have reached := induction (write.continued.orderly orderly)
      refine write.coherent reached orderly fun handle held => ?_
      rcases known handle held with ⟨count, snapshot⟩
      exact ⟨count, (writes_continued earlier).known snapshot⟩

/-! ## Low revisions -/

def RevisionsLow (chronicle : Chronicle) : Prop :=
  ∀ version ∈ chronicle.versions, version.bucket.revision.toNat < UInt64.size - 1

instance (chronicle : Chronicle) : Decidable chronicle.RevisionsLow :=
  inferInstanceAs (Decidable (∀ version ∈ chronicle.versions, _))

theorem Extends.revisionsLow (continued : Extends before after) (low : after.RevisionsLow) :
    before.RevisionsLow :=
  fun version recorded => low version (continued.versions.subset recorded)

theorem Coherent.few_of_low {chronicle : Chronicle} (coherent : chronicle.Coherent)
    (low : chronicle.RevisionsLow) : UpdatesBelow chronicle.versions (UInt64.size - 2) := by
  intro account id
  cases found : chronicle.accounts.bucket? account id with
  | none =>
      rw [updatesOf, coherent.absent found]
      decide
  | some bucket =>
      have short := (coherent.lineage found).length_lt fun version recorded =>
        low version (List.mem_filter.1 recorded).1
      rw [coherent.length_eq found] at short
      omega

theorem Known.revision_lt {chronicle : Chronicle} {handle : Handle} {count : Nat}
    (known : chronicle.Known handle count) (low : chronicle.RevisionsLow) :
    handle.bucket.revision.toNat < UInt64.size - 1 := by
  have short := known.lineage.length_lt fun version recorded =>
    low version (List.mem_of_mem_take (List.mem_filter.1 recorded).1)
  rwa [known.lineage.revision_toNat (Nat.lt_of_lt_of_le short (Nat.sub_le _ _))]

theorem Write.few_succ (write : Write used before after) {limit : Nat}
    (few : UpdatesBelow before.versions limit) : UpdatesBelow after.versions (limit + 1) := by
  cases write with
  | createBucket created => exact few.append_singleton _
  | createKey created => exact few.mono (Nat.le_succ limit)
  | deleteKey account keyId => exact few.mono (Nat.le_succ limit)
  | update intent updated => exact few.append_singleton _

/-- A revision can only pass the end of its range after it was stored there. -/
theorem writes_few_of_low (writes : Writes used before after) (coherent : before.Coherent)
    (distinct : after.accounts.IdsDistinct) (low : after.RevisionsLow)
    (known : ∀ handle, used handle → ∃ count, before.Known handle count) :
    UpdatesBelow after.versions (UInt64.size - 2) := by
  induction writes with
  | refl => exact coherent.few_of_low low
  | tail earlier write induction =>
      -- One write adds one update at most, so the chronicle is orderly before it is
      -- known that its last revision is low.
      have few := induction (write.continued.ids.idsDistinct distinct)
        (write.continued.revisionsLow low)
      have orderly : Orderly _ := ⟨distinct, write.few_succ few⟩
      have reached := writes_coherent (earlier.tail write) coherent orderly known
      exact reached.few_of_low low

end Chronicle

end BucketReplication
