import BucketReplication.Proofs.Setup.Commutation

/-! # Each side keeps to itself

One side of a setup changes a single account, and there no record but that of its bucket
and no key that was there before. What it does depends on the other side by name alone: a
source goes by the id and the name of its destination, and a destination uses the source
key for nothing but the entry that it sets. -/

namespace BucketReplication

namespace Accounts

/-- Nothing changed but one account, and there nothing but the record of one bucket and
keys that came behind the old ones. -/
structure Confined (accounts after : Accounts) (name bucketId : String) : Prop where
  elsewhere : ∀ other, other ≠ name → after.account other = accounts.account other
  buckets : ∀ id, id ≠ bucketId → after.bucket? name id = accounts.bucket? name id
  names : (after.account name).bucketIds = (accounts.account name).bucketIds
  listed : (after.account name).createdBuckets = (accounts.account name).createdBuckets
  keys : (accounts.account name).keys <+: (after.account name).keys

variable {accounts between after : Accounts} {name bucketId : String}

namespace Confined

theorem refl (accounts : Accounts) (name bucketId : String) :
    accounts.Confined accounts name bucketId :=
  ⟨fun _ _ => rfl, fun _ _ => rfl, rfl, rfl, List.prefix_rfl⟩

theorem trans (first : accounts.Confined between name bucketId)
    (second : between.Confined after name bucketId) :
    accounts.Confined after name bucketId where
  elsewhere other apart := (second.elsewhere other apart).trans (first.elsewhere other apart)
  buckets id apart := (second.buckets id apart).trans (first.buckets id apart)
  names := second.names.trans first.names
  listed := second.listed.trans first.listed
  keys := first.keys.trans second.keys

end Confined

theorem createKey_confined {request : KeyRequest} (bucketId : String)
    (fresh : accounts.key? name accounts.ids.next = none) :
    accounts.Confined (accounts.createKey name request).2 name bucketId := by
  rcases created : accounts.createKey name request with ⟨error | key, after⟩
  · rw [(createKey_error created).1]
    exact .refl accounts name bucketId
  · rcases createKey_ok created with ⟨granted, _, changes⟩
    have unused : accounts.key? name key.id = none := by
      rw [granted]
      exact fresh
    refine ⟨fun other apart => ?_, fun id _ => bucket?_createKey created name id,
      changes.view_eq rfl name, changes.view_eq rfl name, ?_⟩
    · rw [changes other, if_neg (Ne.symm apart)]
    · rw [keys_createKey created unused, if_pos rfl]
      exact List.prefix_append _ _

theorem updateBucket_confined {revision : UInt64} {settings : ReplicationSettings} :
    accounts.Confined (accounts.updateBucket name bucketId revision settings).2 name
      bucketId := by
  rcases updated : accounts.updateBucket name bucketId revision settings with
    ⟨error | bucket, after⟩
  · rw [updateBucket_error updated]
    exact .refl accounts name bucketId
  · rcases updateBucket_ok updated with ⟨_, _, _, _, _, changes⟩
    refine ⟨fun other apart => ?_, fun id apart => ?_, changes.view_eq rfl name,
      changes.view_eq rfl name, ?_⟩
    · rw [changes other, if_neg (Ne.symm apart)]
    · rw [bucket?_updateBucket updated, updateBucket_id updated, if_neg]
      exact fun same => apart same.2.symm
    · exact (keys_updateBucket updated name).symm ▸ List.prefix_rfl

end Accounts

namespace Setup

/-! ## What changes -/

namespace Side

variable (side : Side) {accounts : Accounts}

theorem chosen_confined
    (fresh : accounts.key? side.handle.account accounts.ids.next = none) :
    accounts.Confined (side.chosen accounts).2 side.handle.account side.handle.bucket.id := by
  rw [chosen]
  cases side.fitKey? (accounts.key? side.handle.account) with
  | some key => exact .refl ..
  | none => exact Accounts.createKey_confined _ fresh

theorem stored_confined (keyId : String) :
    accounts.Confined (side.stored keyId accounts).2 side.handle.account
      side.handle.bucket.id := by
  rw [stored]
  cases side.objection with
  | some error => exact .refl ..
  | none =>
      have confined : accounts.Confined (accounts.updateBucket side.handle.account
          side.handle.bucket.id side.handle.bucket.revision (side.stores keyId)).2
          side.handle.account side.handle.bucket.id :=
        Accounts.updateBucket_confined
      rcases result : accounts.updateBucket side.handle.account side.handle.bucket.id
        side.handle.bucket.revision (side.stores keyId) with ⟨error | bucket, after⟩
      · rw [result] at confined
        exact confined
      · rw [result] at confined
        exact confined

theorem outcome_confined
    (fresh : accounts.key? side.handle.account accounts.ids.next = none) :
    accounts.Confined (side.outcome accounts).2 side.handle.account
      side.handle.bucket.id := by
  have choice := side.chosen_confined fresh
  rw [outcome]
  rcases result : side.chosen accounts with ⟨error | key, between⟩
  · rw [result] at choice
    exact choice
  · rw [result] at choice
    exact choice.trans (side.stored_confined key.id)

end Side

/-! ## What it depends on -/

theorem setupSource_congr {σ : Type} (gateway : Gateway σ) (settings : SetupSettings)
    (source : Handle) (wished : NewRule) {destination other : Handle}
    (sameId : other.bucket.id = destination.bucket.id)
    (sameName : other.bucket.name = destination.bucket.name) :
    setupSource gateway settings source destination wished =
      setupSource gateway settings source other wished := by
  have sameRule : ruleToAdd settings source.bucket destination.bucket wished =
      ruleToAdd settings source.bucket other.bucket wished := by
    rw [ruleToAdd, ruleToAdd, sameId, sameName]
  rw [setupSource, setupSource, sameRule, sameName]

def mappedOutcome (destination : Handle) (keyId : String) (between : Accounts)
    (current : Bucket) (sourceKeyId : String) : Outcome Accounts Handle :=
  let bucket := current.updated (settingsWithMapping destination.bucket sourceKeyId keyId)
  (.ok ⟨destination.account, bucket⟩,
    between.putAccount destination.account
      ((between.account destination.account).putBucket bucket))

theorem setupDestination_uniform (settings : SetupSettings) (destination : Handle)
    (accounts : Accounts) :
    (∃ error after, ∀ sourceKeyId,
      (setupDestination Accounts.gateway settings sourceKeyId destination).outcome accounts =
        (.error error, after)) ∨
    ∃ keyId between current,
      between.bucket? destination.account destination.bucket.id = some current ∧
      ∀ sourceKeyId,
        (setupDestination Accounts.gateway settings sourceKeyId destination).outcome accounts =
          mappedOutcome destination keyId between current sourceKeyId := by
  rcases chosen : (destinationKey Accounts.gateway settings destination
    destination.bucket.keyMapping).outcome accounts with ⟨error | ⟨deleted, key⟩, between⟩
  · refine .inl ⟨error, between, fun sourceKeyId => ?_⟩
    rw [(setupDestination_yields settings sourceKeyId destination accounts).outcome_eq, chosen]
    rfl
  · -- From here on only the update is left, and it looks at the source half alone.
    have outcome (sourceKeyId : String) :
        (setupDestination Accounts.gateway settings sourceKeyId destination).outcome accounts =
          .onAccount destination.account
            (between.updateBucket destination.account destination.bucket.id
              destination.bucket.revision
              (settingsWithMapping destination.bucket sourceKeyId key.id)) := by
      rw [setupDestination_of_chosen chosen,
        (Handle.update_yields destination _ _ between).outcome_eq]
    have problem (sourceKeyId : String) :
        (settingsWithMapping destination.bucket sourceKeyId key.id).problem? =
          destination.bucket.sourceSettings.bind SourceSettings.problem? := rfl
    simp only [outcome, Accounts.updateBucket_eq, problem]
    cases destination.bucket.sourceSettings.bind SourceSettings.problem? with
    | some problem => exact .inl ⟨_, between, fun _ => rfl⟩
    | none =>
        cases found : between.bucket? destination.account destination.bucket.id with
        | none => exact .inl ⟨_, between, fun _ => rfl⟩
        | some current =>
            by_cases same : current.revision = destination.bucket.revision
            · simp only [if_pos same]
              exact .inr ⟨key.id, between, current, found, fun _ => rfl⟩
            · simp only [if_neg same]
              exact .inl ⟨_, between, fun _ => rfl⟩

theorem keys_mappedOutcome (destination : Handle) (keyId : String) (between : Accounts)
    (current : Bucket) (sourceKeyId name : String) :
    ((mappedOutcome destination keyId between current sourceKeyId).2.account name).keys =
      (between.account name).keys := by
  rw [mappedOutcome, Accounts.account_putAccount]
  split
  · rename_i here
    rw [← here]
    rfl
  · rfl

theorem stored_mappedOutcome {destination handle : Handle} {keyId sourceKeyId : String}
    {between after : Accounts} {current : Bucket}
    (found : between.bucket? destination.account destination.bucket.id = some current)
    (maps : mappedOutcome destination keyId between current sourceKeyId = (.ok handle, after)) :
    after.bucket? destination.account destination.bucket.id = some handle.bucket ∧
      handle.bucket =
        current.updated (settingsWithMapping destination.bucket sourceKeyId keyId) := by
  have sameId : current.id = destination.bucket.id := Accounts.bucket?_id found
  cases maps
  refine ⟨?_, rfl⟩
  rw [Accounts.bucket?, Accounts.account_putAccount, if_pos rfl, Account.bucket?_putBucket]
  exact if_pos sameId

/-- Two source keys that are to be mapped by one handle, from one state and with one id to
draw: both attempts leave the same keys and fail alike, and records that they store differ
in the entry that was set. -/
structure Parallel (destination : Handle) (first second : String)
    (one two : Outcome Accounts Handle) : Prop where
  keys : ∀ name, (two.2.account name).keys = (one.2.account name).keys
  errors : ∀ error, one.1 = .error error ↔ two.1 = .error error
  stores : ∀ handle other, one.1 = .ok handle → two.1 = .ok other →
    ∃ (current : Bucket) (keyId : String),
      handle.bucket = current.updated (settingsWithMapping destination.bucket first keyId) ∧
      other.bucket = current.updated (settingsWithMapping destination.bucket second keyId) ∧
      one.2.bucket? destination.account destination.bucket.id = some handle.bucket ∧
      two.2.bucket? destination.account destination.bucket.id = some other.bucket

theorem setupDestination_parallel (settings : SetupSettings) (destination : Handle)
    (accounts : Accounts) (first second : String) :
    Parallel destination first second
      ((setupDestination Accounts.gateway settings first destination).outcome accounts)
      ((setupDestination Accounts.gateway settings second destination).outcome accounts) := by
  rcases setupDestination_uniform settings destination accounts with
    ⟨error, after, fails⟩ | ⟨keyId, between, current, found, maps⟩
  · rw [fails, fails]
    exact ⟨fun _ => rfl, fun _ => Iff.rfl, nofun⟩
  · rw [maps, maps]
    refine ⟨fun name => ?_, fun error => ⟨nofun, nofun⟩, fun handle other one two => ?_⟩
    · rw [keys_mappedOutcome, keys_mappedOutcome]
    · rcases stored_mappedOutcome found (Prod.ext one rfl) with ⟨present, same⟩
      rcases stored_mappedOutcome found (Prod.ext two rfl) with ⟨presentToo, sameToo⟩
      exact ⟨current, keyId, same, sameToo, present, presentToo⟩

/-- In every state of the accounts, by every handle and whether it succeeds or not, one side
of a setup leaves all accounts alone but its own, and there all records but that of its
bucket and all keys that were there. A source does the same on every backend for two
destinations of one id and one name. A destination chooses or creates its key before the
source key comes into it, so two source keys fare alike but for the entry that is set. -/
theorem sides_keep_to_themselves (accounts : Accounts) (settings : SetupSettings) :
    (∀ (source destination : Handle) (wished : NewRule),
      accounts.key? source.account accounts.ids.next = none →
      accounts.Confined
        ((setupSource Accounts.gateway settings source destination wished).outcome accounts).2
        source.account source.bucket.id) ∧
    (∀ (σ : Type) (gateway : Gateway σ) (source destination other : Handle) (wished : NewRule),
      other.bucket.id = destination.bucket.id → other.bucket.name = destination.bucket.name →
      setupSource gateway settings source destination wished =
        setupSource gateway settings source other wished) ∧
    (∀ (sourceKeyId : String) (destination : Handle),
      accounts.key? destination.account accounts.ids.next = none →
      accounts.Confined
        ((setupDestination Accounts.gateway settings sourceKeyId destination).outcome accounts).2
        destination.account destination.bucket.id) ∧
    ∀ destination : Handle,
      (∃ choice : Outcome Accounts (List String × ApplicationKey), ∀ sourceKeyId,
        (setupDestination Accounts.gateway settings sourceKeyId destination).outcome accounts =
          choice.bind fun (_, key) between =>
            (destination.update Accounts.gateway destination.bucket.revision
              (settingsWithMapping destination.bucket sourceKeyId key.id)).outcome between) ∧
      ∀ first second, Parallel destination first second
        ((setupDestination Accounts.gateway settings first destination).outcome accounts)
        ((setupDestination Accounts.gateway settings second destination).outcome accounts) := by
  refine ⟨?source, ?names, ?destination, ?keys⟩
  case source =>
    intro source destination wished fresh
    rw [sourceSide_outcome]
    exact (sourceSide settings source destination wished).outcome_confined fresh
  case names =>
    intro σ gateway source destination other wished sameId sameName
    exact setupSource_congr gateway settings source wished sameId sameName
  case destination =>
    intro sourceKeyId destination fresh
    rw [destinationSide_outcome]
    exact (destinationSide settings sourceKeyId destination).outcome_confined fresh
  case keys =>
    intro destination
    let choice := (destinationKey Accounts.gateway settings destination
      destination.bucket.keyMapping).outcome accounts
    refine ⟨⟨choice, fun sourceKeyId => ?_⟩,
      setupDestination_parallel settings destination accounts⟩
    exact (setupDestination_yields settings sourceKeyId destination accounts).outcome_eq

theorem sides_keep_to_themselves_neighbours :
    let accounts := SideSetup.neighbours
    let source : Handle := ⟨"west", .new "photos-id" "photos"⟩
    let destination : Handle := ⟨"west", .new "backup-id" "backup"⟩
    let abroad : Handle :=
      ⟨"east", ⟨"backup-id", "backup", 7, some ⟨none, some .empty⟩⟩⟩
    let sourceSide :=
      (setupSource Accounts.gateway .default source destination .derived).outcome accounts
    let destinationSide (sourceKeyId : String) :=
      (setupDestination Accounts.gateway .default sourceKeyId destination).outcome accounts
    accounts.key? "west" accounts.ids.next = none ∧
      sourceSide.1.isOk = true ∧ accounts.Confined sourceSide.2 "west" "photos-id" ∧
      sourceSide =
        (setupSource Accounts.gateway .default source abroad .derived).outcome accounts ∧
      (destinationSide "a").1.isOk = true ∧
      accounts.Confined (destinationSide "a").2 "west" "backup-id" ∧
      Parallel destination "a" "b" (destinationSide "a") (destinationSide "b") := by
  intro accounts source destination abroad sourceSide destinationSide
  have fresh : accounts.key? "west" accounts.ids.next = none := by decide
  have law := sides_keep_to_themselves accounts .default
  have same := law.2.1 Accounts Accounts.gateway source destination abroad .derived rfl rfl
  exact ⟨fresh, by decide, law.1 source destination .derived fresh,
    congrArg (fun procedure => procedure.outcome accounts) same, by decide,
    law.2.2.1 "a" destination fresh, (law.2.2.2 destination).2 "a" "b"⟩

end Setup

end BucketReplication
