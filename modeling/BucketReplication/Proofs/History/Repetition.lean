import BucketReplication.Proofs.History.DestinationSetup
import BucketReplication.Proofs.Setup.FitKey

/-! # Repeated setups of a destination

A setup of a destination that follows another one for the same source key goes by the
mapping that the first one stored. It never needs a new key, but the key that was last
in the first mapping need not be last in the second: of several fit keys another one
may be chosen. -/

namespace BucketReplication

namespace Setup

variable {accounts between : Accounts} {settings : SetupSettings} {sourceKeyId : String}
  {destination handle : Handle}

theorem settingsWithMapping_updated_iff (record bucket : Bucket)
    (sourceKeyId keyId nextKeyId : String) :
    let updated := record.updated (settingsWithMapping bucket sourceKeyId keyId)
    some (settingsWithMapping updated sourceKeyId nextKeyId) = updated.replication ↔
      nextKeyId = keyId := by
  intro updated
  have mapping : updated.keyMapping = KeyMapping.map bucket.keyMapping sourceKeyId keyId := rfl
  constructor
  · intro same
    have sameMapping : KeyMapping.map updated.keyMapping sourceKeyId nextKeyId =
        updated.keyMapping :=
      congrArg (fun stored => (Bucket.mk "" "" 0 stored).keyMapping) same
    have looked := congrArg (KeyMapping.lookup · sourceKeyId) sameMapping
    rw [KeyMapping.lookup_map, if_pos rfl, mapping, KeyMapping.lookup_map, if_pos rfl] at looked
    exact Option.some.inj looked
  · rintro rfl
    have same : KeyMapping.map updated.keyMapping sourceKeyId nextKeyId = updated.keyMapping :=
      Ascending.insert_insert (sourceKeyId, nextKeyId) bucket.keyMapping
    exact congrArg (fun mapping : KeyMapping =>
      some (⟨bucket.sourceSettings, some ⟨mapping⟩⟩ : ReplicationSettings)) same

theorem setupDestination_of_fit (settings : SetupSettings) (sourceKeyId : String)
    (valid : destination.bucket.IsValid)
    (current : accounts.bucket? destination.account destination.bucket.id =
      some destination.bucket) {keyId : String}
    (last : (fitKeyIds accounts destination.account
      (KeyMapping.destinationKeyIds destination.bucket.keyMapping)).getLast? = some keyId) :
    ∃ after,
      (setupDestination Accounts.gateway settings sourceKeyId destination).outcome accounts =
        (.ok ⟨destination.account, destination.bucket.updated
          (settingsWithMapping destination.bucket sourceKeyId keyId)⟩, after) ∧
      ∀ name, (after.account name).keys = (accounts.account name).keys := by
  rcases destinationKey_of_found settings destination.bucket.keyMapping current with
    ⟨key, between, chosen, _, ⟨lastToo, rfl⟩ | ⟨none, _⟩⟩
  · rw [last] at lastToo
    cases lastToo
    have result := update_settingsWithMapping sourceKeyId key.id valid current
    rw [if_neg fun stale => stale rfl] at result
    rw [setupDestination_of_chosen chosen]
    exact ⟨_, Prod.ext result rfl, Handle.update_keys rfl⟩
  · rw [none] at last
    cases last

/-- A second setup for the same source key, by the handle that the first one returned
and right after it, succeeds without a new key and maps the source key to a mapped key
that is fit. It stores what the first one stored exactly if every other fit key that is
mapped is mapped from before the source key. -/
theorem setupDestination_repeated
    (first : (setupDestination Accounts.gateway settings sourceKeyId destination).outcome
      accounts = (.ok handle, between)) :
    let entries := handle.bucket.keyMapping.items
    let isFit := fun keyId =>
      (between.key? handle.account keyId).any ApplicationKey.isFitForDestination
    ∃ keyId chosen after,
      let again : Handle :=
        { account := handle.account
          bucket :=
            { id := handle.bucket.id
              name := handle.bucket.name
              revision := handle.bucket.revision + 1
              replication := some
                { source := handle.bucket.sourceSettings
                  destination :=
                    some ⟨KeyMapping.map handle.bucket.keyMapping sourceKeyId chosen⟩ } } }
      (setupDestination Accounts.gateway settings sourceKeyId handle).outcome between =
        (.ok again, after) ∧
      (∀ name, (after.account name).keys = (between.account name).keys) ∧
      KeyMapping.lookup handle.bucket.keyMapping sourceKeyId = some keyId ∧ isFit keyId = true ∧
      (∃ entry ∈ entries, entry.2 = chosen ∧ isFit chosen = true) ∧
      (again.bucket.replication = handle.bucket.replication ↔
        ∀ entry ∈ entries, isFit entry.2 = true → entry.2 ≠ keyId →
          ∃ earlier ∈ entries, earlier.2 = entry.2 ∧ earlier.1 < sourceKeyId) := by
  intro entries isFit
  rcases setupDestination_ok first with ⟨deleted, key, middle, chosen, stored, sameAccount⟩
  rcases Accounts.updateBucket_ok stored with ⟨valid, record, _, _, follows, _⟩
  have current : between.bucket? handle.account handle.bucket.id = some handle.bucket := by
    rw [sameAccount]
    exact Chronicle.current_updateBucket stored
  have isValid : handle.bucket.IsValid := follows ▸ Bucket.isValid_updated valid
  have agrees (keyId : String) : isFit keyId =
      (middle.key? destination.account keyId).any ApplicationKey.isFitForDestination := by
    rw [← Accounts.key?_updateBucket stored, ← sameAccount]
  have mapping : handle.bucket.keyMapping =
      KeyMapping.map destination.bucket.keyMapping sourceKeyId key.id := by
    rw [follows]
    rfl
  have looked : KeyMapping.lookup handle.bucket.keyMapping sourceKeyId = some key.id := by
    rw [mapping, KeyMapping.lookup_map, if_pos rfl]
  rcases destinationKey_choice chosen agrees with ⟨fit, choice⟩
  have stays := KeyMapping.last_fit_map_iff sourceKeyId fit choice
  rw [← mapping] at stays
  -- The key of the first setup is mapped and fit, so there is a last fit key.
  have counts : key.id ∈ (KeyMapping.destinationKeyIds handle.bucket.keyMapping).filter isFit :=
    List.mem_filter.2 ⟨KeyMapping.mem_destinationKeyIds.2
      ⟨_, KeyMapping.mem_items_of_lookup looked, rfl⟩, fit⟩
  rcases last : ((KeyMapping.destinationKeyIds handle.bucket.keyMapping).filter isFit).getLast?
    with _ | next
  · rw [List.getLast?_eq_none_iff.1 last] at counts
    exact absurd counts List.not_mem_nil
  rcases setupDestination_of_fit settings sourceKeyId isValid current last with
    ⟨after, second, keys⟩
  rcases List.mem_filter.1 (List.mem_of_getLast? last) with ⟨listed, nextFit⟩
  rcases KeyMapping.mem_destinationKeyIds.1 listed with ⟨entry, inMapping, same⟩
  refine ⟨key.id, next, after, second, keys, looked, fit, ⟨entry, inMapping, same, nextFit⟩, ?_⟩
  have sameSettings := settingsWithMapping_updated_iff record destination.bucket sourceKeyId
    key.id next
  rw [← follows] at sameSettings
  dsimp only at stays
  rw [last, Option.some.injEq] at stays
  exact sameSettings.trans stays

end Setup

namespace Session

/-! ## The tour of mapped keys -/

def remappedHandle (sourceKeyId : String) : Handle :=
  ⟨"east", mappedHandle.bucket.updated
    (Setup.settingsWithMapping mappedHandle.bucket sourceKeyId "key-2")⟩

theorem mappedHandle_isValid : mappedHandle.bucket.IsValid :=
  Bucket.isValid_updated (by decide)

theorem mappedHandle_current : mappedTour.chronicle.Current mappedHandle := by
  unfold Chronicle.Current
  decide

theorem setupDestination_repeated_mappedTour :
    ∃ handle between again after,
      (Setup.setupDestination Accounts.gateway .default "f" mappedHandle).outcome
        mappedTour.accounts = (.ok handle, between) ∧
      (Setup.setupDestination Accounts.gateway .default "f" handle).outcome between =
        (.ok again, after) ∧
      again.bucket.replication = handle.bucket.replication := by
  rcases Setup.setupDestination_of_fit .default "f" mappedHandle_isValid mappedHandle_current
    (show _ = some "key-2" by decide) with ⟨between, first, _⟩
  rcases Setup.setupDestination_repeated first with
    ⟨keyId, chosen, after, second, _, looked, _, _, same⟩
  have mapped : some "key-2" = some keyId := looked
  cases mapped
  have early : ∀ entry ∈ (remappedHandle "f").bucket.keyMapping.items, entry.2 ≠ "key-2" →
      ∃ earlier ∈ (remappedHandle "f").bucket.keyMapping.items,
        earlier.2 = entry.2 ∧ earlier.1 < "f" := by
    decide
  exact ⟨remappedHandle "f", between, _, after, first, second,
    same.2 fun entry listed _ different => early entry listed different⟩

/-- On the tour of mapped keys the second setup maps the source key to another key: the
one that came last has moved to the front. -/
theorem setupDestination_repeated_differs :
    ¬ ∀ (session : Session) (settings : SetupSettings) (sourceKeyId : String)
        (destination handle : Handle) (between : Accounts),
      Reached (fun _ _ => True) session →
      (session.run [.setupDestination settings sourceKeyId destination,
        .setupDestination settings sourceKeyId handle]).accounts.IdsDistinct →
      (∀ version ∈ session.versions, version.bucket.revision.toNat < UInt64.size - 2) →
      session.chronicle.Current destination →
      (Setup.setupDestination Accounts.gateway settings sourceKeyId destination).outcome
        session.accounts = (.ok handle, between) →
      ∃ again after,
        (Setup.setupDestination Accounts.gateway settings sourceKeyId handle).outcome between =
          (.ok again, after) ∧
        (∀ name, (after.account name).keys = (between.account name).keys) ∧
        again.bucket.replication = handle.bucket.replication := by
  intro idempotent
  have distinct : (mappedTour.run [.setupDestination .default "a" mappedHandle,
      .setupDestination .default "a" (remappedHandle "a")]).accounts.IdsDistinct :=
    Accounts.idsDistinct_of_entries (by decide)
  rcases Setup.setupDestination_of_fit .default "a" mappedHandle_isValid mappedHandle_current
    (show _ = some "key-2" by decide) with ⟨between, first, _⟩
  have reached : between = ((Setup.setupDestination Accounts.gateway .default "a"
      mappedHandle).outcome mappedTour.accounts).2 :=
    (congrArg Prod.snd first).symm
  have validToo : (remappedHandle "a").bucket.IsValid :=
    Bucket.isValid_updated (Setup.problem?_settingsWithMapping _ _ _ mappedHandle_isValid)
  have currentToo : between.bucket? "east" "bucket-1" = some (remappedHandle "a").bucket := by
    rw [reached]
    decide
  have last : (Setup.fitKeyIds between "east"
      (KeyMapping.destinationKeyIds (remappedHandle "a").bucket.keyMapping)).getLast? =
      some "key-1" := by
    rw [reached]
    decide
  rcases Setup.setupDestination_of_fit .default "a" validToo currentToo last with
    ⟨after, second, _⟩
  rcases idempotent mappedTour .default "a" mappedHandle (remappedHandle "a") between
    mappedTour_reached distinct (by decide) mappedHandle_current first with
    ⟨again, afterToo, same, _, kept⟩
  rw [second] at same
  cases same
  revert kept
  decide

end Session

end BucketReplication
