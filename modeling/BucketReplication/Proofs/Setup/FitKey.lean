import BucketReplication.Proofs.Setup.KeyMapping
import BucketReplication.Proofs.Setup.Outcome

/-! # Keys that settings rely on

A bucket is equipped if the keys that its settings name exist, are restricted to
it, and are fit for their tasks. The key that a setup chooses for an equipped
bucket is one of these or a new one like them. -/

namespace BucketReplication

namespace Accounts

/-- A key exists, is restricted to a bucket, and is fit for a task. -/
def HoldsKey (accounts : Accounts) (account bucketId : String) (isFit : ApplicationKey → Bool)
    (keyId : String) : Prop :=
  ∃ key, accounts.key? account keyId = some key ∧ key.bucketId = some bucketId ∧
    isFit key = true

/-- The keys that the settings of a bucket name are there for it. A bucket with
rules names a source key. -/
structure Equips (accounts : Accounts) (account : String) (bucket : Bucket) : Prop where
  source : ∀ keyId, bucket.sourceKeyId = some keyId →
    accounts.HoldsKey account bucket.id ApplicationKey.isFitForSource keyId
  named : bucket.rules ≠ [] → ∃ keyId, bucket.sourceKeyId = some keyId
  mapped : ∀ entry ∈ bucket.keyMapping.items,
    accounts.HoldsKey account bucket.id ApplicationKey.isFitForDestination entry.2

variable {accounts between after : Accounts} {account : String} {bucket : Bucket}
  {keyId : String}

theorem HoldsKey.kept {isFit : ApplicationKey → Bool}
    (holds : accounts.HoldsKey account bucket.id isFit keyId) (keeps : KeepsKeys accounts after) :
    after.HoldsKey account bucket.id isFit keyId := by
  rcases holds with ⟨key, found, bound, fit⟩
  exact ⟨key, keeps account keyId key found, bound, fit⟩

namespace Equips

theorem kept (equips : accounts.Equips account bucket) (keeps : KeepsKeys accounts after) :
    after.Equips account bucket where
  source keyId names := (equips.source keyId names).kept keeps
  named := equips.named
  mapped entry inMapping := (equips.mapped entry inMapping).kept keeps

theorem new (accounts : Accounts) (account id name : String) :
    accounts.Equips account (.new id name) where
  source := nofun
  named ruled := absurd rfl ruled
  mapped := nofun

theorem withRule (equips : accounts.Equips account bucket) (rule : Rule)
    (holds : accounts.HoldsKey account bucket.id ApplicationKey.isFitForSource keyId) :
    accounts.Equips account (bucket.updated (Setup.settingsWithRule bucket keyId rule)) where
  source named same := by
    rw [Setup.sourceKeyId_settingsWithRule] at same
    cases same
    exact holds
  named _ := ⟨keyId, rfl⟩
  mapped := equips.mapped

theorem withMapping (equips : accounts.Equips account bucket) (sourceKeyId : String)
    (holds : accounts.HoldsKey account bucket.id ApplicationKey.isFitForDestination keyId) :
    accounts.Equips account
      (bucket.updated (Setup.settingsWithMapping bucket sourceKeyId keyId)) where
  source named same := by
    rw [Setup.sourceKeyId_settingsWithMapping] at same
    exact equips.source named same
  named ruled := by
    rw [Setup.rules_settingsWithMapping] at ruled
    rw [Setup.sourceKeyId_settingsWithMapping]
    exact equips.named ruled
  mapped entry inMapping := by
    rcases KeyMapping.mem_items_map inMapping with rfl | before
    · exact holds
    · exact equips.mapped entry before

end Equips

theorem createKey_holds {request : KeyRequest} {key : ApplicationKey} {bucketId : String}
    {isFit : ApplicationKey → Bool}
    (created : accounts.createKey account request = (.ok key, after))
    (bound : request.bucketId = some bucketId)
    (fit : ∀ id, isFit (request.granted id) = true) :
    after.HoldsKey account bucketId isFit key.id := by
  have granted := (createKey_ok created).1
  refine ⟨key, ?_, ?_, ?_⟩
  · rw [key?_createKey created, if_pos ⟨rfl, rfl⟩]
  · rw [granted]
    exact bound
  · rw [granted]
    exact fit _

end Accounts

namespace Setup

variable {accounts after : Accounts} {settings : SetupSettings} {source destination : Handle}

theorem granted_isFitForSource (settings : SetupSettings) (bucket : Bucket) (id : String) :
    ((sourceKeyRequest settings bucket).granted id).isFitForSource = true := by
  have held : (CapabilitySet.ofList sourceCapabilities).holdsAll sourceCapabilities = true := by
    decide
  exact held

theorem granted_isFitForDestination (settings : SetupSettings) (bucket : Bucket) (id : String) :
    ((destinationKeyRequest settings bucket).granted id).isFitForDestination = true := by
  have held : (CapabilitySet.ofList destinationCapabilities).holdsAll destinationCapabilities =
      true := by
    decide
  exact (Bool.and_true _).trans held

theorem sourceKey_equips {fileNameStart : String} {key : ApplicationKey}
    (chosen : (sourceKey Accounts.gateway settings source fileNameStart).outcome accounts =
      (.ok key, after)) (equips : accounts.Equips source.account source.bucket) :
    after.HoldsKey source.account source.bucket.id ApplicationKey.isFitForSource key.id ∧
      ∀ keyId, source.bucket.sourceKeyId = some keyId → key.id = keyId := by
  rcases sourceKey_ok chosen with ⟨fit, rfl⟩ | ⟨unfit, created⟩
  · rcases Option.filter_eq_some_iff.1 fit with ⟨found, _⟩
    rcases Option.bind_eq_some_iff.1 found with ⟨keyId, names, present⟩
    have same : key.id = keyId := Accounts.key?_id present
    rw [same]
    refine ⟨equips.source keyId names, fun other alsoNames => ?_⟩
    exact Option.some.inj (names.symm.trans alsoNames)
  · refine ⟨Accounts.createKey_holds created rfl (granted_isFitForSource settings source.bucket),
      fun keyId names => ?_⟩
    rcases equips.source keyId names with ⟨named, found, _, fit⟩
    rw [fitSourceKey?, names, Option.bind_some, found, Option.filter_some, if_pos fit] at unfit
    cases unfit

theorem destinationKey_equips {deleted : List String} {key : ApplicationKey}
    (chosen : (destinationKey Accounts.gateway settings destination
      destination.bucket.keyMapping).outcome accounts = (.ok (deleted, key), after))
    (equips : accounts.Equips destination.account destination.bucket) :
    after.HoldsKey destination.account destination.bucket.id
      ApplicationKey.isFitForDestination key.id := by
  rcases destinationKey_ok chosen with ⟨last, rfl⟩ | ⟨_, created⟩
  · rcases List.mem_filter.1 (List.mem_of_getLast? last) with ⟨found, _⟩
    rcases List.mem_filterMap.1 found with ⟨keyId, listedId, present⟩
    rcases KeyMapping.mem_destinationKeyIds.1 listedId with ⟨entry, inMapping, rfl⟩
    have same : key.id = entry.2 := Accounts.key?_id present
    rw [same]
    exact equips.mapped entry inMapping
  · exact Accounts.createKey_holds created rfl
      (granted_isFitForDestination settings destination.bucket)

/-- The chosen key is the last fit one of those that were mapped, or the only one, also
afterwards. -/
theorem destinationKey_choice {deleted : List String} {key : ApplicationKey}
    {between : Accounts} {isFit : String → Bool}
    (chosen : (destinationKey Accounts.gateway settings destination
      destination.bucket.keyMapping).outcome accounts = (.ok (deleted, key), between))
    (agrees : ∀ keyId, isFit keyId =
      (between.key? destination.account keyId).any ApplicationKey.isFitForDestination) :
    let keyIds := KeyMapping.destinationKeyIds destination.bucket.keyMapping
    isFit key.id = true ∧
      ((keyIds.filter isFit).getLast? = some key.id ∨
        ∀ keyId ∈ keyIds, isFit keyId = true → keyId = key.id) := by
  intro keyIds
  rcases destinationKey_ok chosen with ⟨last, rfl⟩ | ⟨none, created⟩
  · have ids : keyIds.filter isFit =
        (fitDestinationKeys between destination.account keyIds).map ApplicationKey.id := by
      rw [map_id_fitDestinationKeys, fitKeyIds, funext agrees]
    have lastId : (keyIds.filter isFit).getLast? = some key.id := by
      rw [ids, List.getLast?_map, last]
      rfl
    exact ⟨(List.mem_filter.1 (List.mem_of_getLast? lastId)).2, .inl lastId⟩
  · rcases Accounts.createKey_holds created rfl
      (granted_isFitForDestination settings destination.bucket) with ⟨held, found, _, fit⟩
    have isFitKey : isFit key.id = true := by
      rw [agrees, found, Option.any_some, fit]
    refine ⟨isFitKey, .inr fun keyId listed fitToo => ?_⟩
    -- Another mapped key that is fit would have been chosen before.
    by_cases new : key.id = keyId
    · exact new.symm
    · rw [agrees, Accounts.key?_createKey created, if_neg fun same => new same.2] at fitToo
      have counts : keyId ∈ fitKeyIds accounts destination.account keyIds :=
        List.mem_filter.2 ⟨listed, fitToo⟩
      rw [← map_id_fitDestinationKeys, none] at counts
      exact absurd counts List.not_mem_nil

end Setup

end BucketReplication
