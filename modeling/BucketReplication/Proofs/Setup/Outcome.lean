import BucketReplication.Proofs.Accounts.Creation
import BucketReplication.Proofs.Setup.KeyChoice
import BucketReplication.Proofs.Setup.Settings

/-! # Outcomes of setups

A setup of one side is the choice of a key followed by one update, which depends
on the revision of the handle. A setup of both sides is one after the other. -/

namespace BucketReplication

open Procedure (Yields)

namespace Outcome

def onAccount (account : String) (outcome : Outcome Accounts Bucket) :
    Outcome Accounts Handle :=
  outcome.bind fun bucket after => (.ok ⟨account, bucket⟩, after)

variable {account : String} {outcome : Outcome Accounts Bucket} {handle : Handle}
  {error : Error} {after : Accounts}

theorem onAccount_eq_ok (succeeds : outcome.onAccount account = (.ok handle, after)) :
    outcome = (.ok handle.bucket, after) ∧ handle.account = account := by
  rcases bind_eq_ok succeeds with ⟨bucket, between, same, answered⟩
  cases answered
  exact ⟨same, rfl⟩

theorem onAccount_eq_error (fails : outcome.onAccount account = (.error error, after)) :
    outcome = (.error error, after) := by
  rcases bind_eq_error fails with same | ⟨_, _, _, answered⟩
  · exact same
  · cases answered

end Outcome

namespace Handle

variable {handle : Handle} {revision : UInt64} {settings : ReplicationSettings}
  {accounts after : Accounts}

theorem update_yields (handle : Handle) (revision : UInt64) (settings : ReplicationSettings)
    (accounts : Accounts) :
    (handle.update Accounts.gateway revision settings).Yields accounts
      (.onAccount handle.account
        (accounts.updateBucket handle.account handle.bucket.id revision settings)) := by
  unfold Handle.update
  exact .after_report (.bind (Setup.updateBucket_yields _ _ _ _ accounts) fun _ _ => .pure _)

theorem update_ok {next : Handle}
    (updated : (handle.update Accounts.gateway revision settings).outcome accounts =
      (.ok next, after)) :
    accounts.updateBucket handle.account handle.bucket.id revision settings =
        (.ok next.bucket, after) ∧ next.account = handle.account := by
  rw [(update_yields handle revision settings accounts).outcome_eq] at updated
  exact Outcome.onAccount_eq_ok updated

theorem update_error {error : Error}
    (refused : (handle.update Accounts.gateway revision settings).outcome accounts =
      (.error error, after)) : after = accounts := by
  rw [(update_yields handle revision settings accounts).outcome_eq] at refused
  exact Accounts.updateBucket_error (Outcome.onAccount_eq_error refused)

theorem update_keys {result : Except Error Handle}
    (tried : (handle.update Accounts.gateway revision settings).outcome accounts =
      (result, after)) (name : String) :
    (after.account name).keys = (accounts.account name).keys := by
  cases result with
  | error error => rw [update_error tried]
  | ok next => exact Accounts.keys_updateBucket (update_ok tried).1 name

theorem update_grows {result : Except Error Handle}
    (tried : (handle.update Accounts.gateway revision settings).outcome accounts =
      (result, after)) : accounts.Grows after := by
  cases result with
  | error error => exact update_error tried ▸ .refl accounts
  | ok next => exact Accounts.updateBucket_grows (update_ok tried).1

theorem fetch_yields (account name : String) (accounts : Accounts) :
    (fetch Accounts.gateway account name).Yields accounts
      (.onAccount account ((accounts.account account).getBucketByName name, accounts)) := by
  unfold fetch
  exact .bind (.call Accounts.gateway account (.getBucketByName name)) fun _ _ => .pure _

theorem fetch_ok {account name : String}
    (fetched : (fetch Accounts.gateway account name).outcome accounts = (.ok handle, after)) :
    accounts.bucket? handle.account handle.bucket.id = some handle.bucket ∧
      after = accounts := by
  rw [(fetch_yields account name accounts).outcome_eq] at fetched
  rcases Outcome.onAccount_eq_ok fetched with ⟨result, rfl⟩
  rw [Prod.mk.injEq] at result
  rcases result with ⟨found, rfl⟩
  refine ⟨?_, rfl⟩
  unfold Account.getBucketByName at found
  split at found
  · cases found
  · rename_i bucket named
    cases found
    rcases Option.bind_eq_some_iff.1 named with ⟨id, _, stored⟩
    have same : handle.bucket.id = id := Account.bucket?_id stored
    rw [same]
    exact stored

theorem fetch_error {account name : String} {error : Error}
    (refused : (fetch Accounts.gateway account name).outcome accounts = (.error error, after)) :
    after = accounts := by
  rw [(fetch_yields account name accounts).outcome_eq] at refused
  exact (congrArg Prod.snd (Outcome.onAccount_eq_error refused)).symm

end Handle

namespace Setup

variable {accounts after : Accounts} {settings : SetupSettings} {source destination : Handle}
  {wished : NewRule} {error : Error}

/-! ## The key -/

theorem sourceKey_ok {fileNameStart : String} {key : ApplicationKey}
    (chosen : (sourceKey Accounts.gateway settings source fileNameStart).outcome accounts =
      (.ok key, after)) :
    (fitSourceKey? accounts source = some key ∧ after = accounts) ∨
      (fitSourceKey? accounts source = none ∧
        accounts.createKey source.account (sourceKeyRequest settings source.bucket) =
          (.ok key, after)) := by
  rw [(sourceKey_yields settings source fileNameStart accounts).outcome_eq] at chosen
  cases fit : fitSourceKey? accounts source with
  | some fitKey =>
      rw [fit] at chosen
      cases chosen
      exact .inl ⟨rfl, rfl⟩
  | none =>
      rw [fit] at chosen
      exact .inr ⟨rfl, chosen⟩

theorem sourceKey_error {fileNameStart : String}
    (failed : (sourceKey Accounts.gateway settings source fileNameStart).outcome accounts =
      (.error error, after)) :
    after = accounts ∧ accounts.bucket? source.account source.bucket.id = none := by
  rw [(sourceKey_yields settings source fileNameStart accounts).outcome_eq] at failed
  cases fit : fitSourceKey? accounts source with
  | some fitKey =>
      rw [fit] at failed
      cases failed
  | none =>
      rw [fit] at failed
      obtain ⟨unchanged, bucketId, bound, absent⟩ := Accounts.createKey_error failed
      cases bound
      exact ⟨unchanged, absent⟩

theorem destinationKey_ok {mapping : KeyMapping} {deleted : List String} {key : ApplicationKey}
    (chosen : (destinationKey Accounts.gateway settings destination mapping).outcome accounts =
      (.ok (deleted, key), after)) :
    let mapped := fitDestinationKeys accounts destination.account
      (KeyMapping.destinationKeyIds mapping)
    (mapped.getLast? = some key ∧ after = accounts) ∨
      (mapped = [] ∧
        accounts.createKey destination.account
          (destinationKeyRequest settings destination.bucket) = (.ok key, after)) := by
  rw [(destinationKey_yields settings destination mapping accounts).outcome_eq] at chosen
  dsimp only at chosen ⊢
  cases fit : (fitDestinationKeys accounts destination.account
      (KeyMapping.destinationKeyIds mapping)).getLast? with
  | some fitKey =>
      rw [fit] at chosen
      cases chosen
      exact .inl ⟨rfl, rfl⟩
  | none =>
      rw [fit] at chosen
      obtain ⟨created, between, result, answered⟩ := Outcome.bind_eq_ok chosen
      cases answered
      exact .inr ⟨List.getLast?_eq_none_iff.1 fit, result⟩

theorem destinationKey_error {mapping : KeyMapping}
    (failed : (destinationKey Accounts.gateway settings destination mapping).outcome accounts =
      (.error error, after)) :
    after = accounts ∧ accounts.bucket? destination.account destination.bucket.id = none := by
  rw [(destinationKey_yields settings destination mapping accounts).outcome_eq] at failed
  dsimp only at failed
  cases fit : (fitDestinationKeys accounts destination.account
      (KeyMapping.destinationKeyIds mapping)).getLast? with
  | some fitKey =>
      rw [fit] at failed
      cases failed
  | none =>
      rw [fit] at failed
      rcases Outcome.bind_eq_error failed with result | ⟨_, _, _, answered⟩
      · obtain ⟨unchanged, bucketId, bound, absent⟩ := Accounts.createKey_error result
        cases bound
        exact ⟨unchanged, absent⟩
      · cases answered

theorem sourceKey_addsKey {fileNameStart : String} {result : Except Error ApplicationKey}
    (chosen : (sourceKey Accounts.gateway settings source fileNameStart).outcome accounts =
      (result, after)) : accounts.AddsKey after := by
  rcases result with error | key
  · exact .inl (sourceKey_error chosen).1
  · rcases sourceKey_ok chosen with ⟨_, same⟩ | ⟨_, created⟩
    · exact .inl same
    · exact .inr ⟨_, _, key, created⟩

theorem destinationKey_addsKey {mapping : KeyMapping}
    {result : Except Error (List String × ApplicationKey)}
    (chosen : (destinationKey Accounts.gateway settings destination mapping).outcome accounts =
      (result, after)) : accounts.AddsKey after := by
  rcases result with error | ⟨deleted, key⟩
  · exact .inl (destinationKey_error chosen).1
  · rcases destinationKey_ok chosen with ⟨_, same⟩ | ⟨_, created⟩
    · exact .inl same
    · exact .inr ⟨_, _, key, created⟩

/-! ## The source side -/

theorem setupSource_yields (settings : SetupSettings) (source destination : Handle)
    (wished : NewRule) (accounts : Accounts) :
    (setupSource Accounts.gateway settings source destination wished).Yields accounts
      (Outcome.bind
        ((sourceKey Accounts.gateway settings source
          (wished.fileNameStart.getD "")).outcome accounts)
        fun key between =>
          let rule := ruleToAdd settings source.bucket destination.bucket wished
          match rule.problem? with
          | some problem => (.error (.invalidReplication problem), between)
          | none =>
            (source.update Accounts.gateway source.bucket.revision
              (settingsWithRule source.bucket key.id rule)).outcome between) := by
  unfold setupSource
  refine .bind (sourceKey_yields settings source _ accounts).yields_outcome fun key between => ?_
  dsimp only
  cases (ruleToAdd settings source.bucket destination.bucket wished).problem? with
  | some problem => exact .throw _
  | none =>
      exact .after_report (.followed (Handle.update_yields source _ _ between).yields_outcome
        fun handle _ => .after_count (.pure handle))

theorem setupSource_ok {handle : Handle}
    (succeeded : (setupSource Accounts.gateway settings source destination wished).outcome
      accounts = (.ok handle, after)) :
    ∃ key between,
      (sourceKey Accounts.gateway settings source
        (wished.fileNameStart.getD "")).outcome accounts = (.ok key, between) ∧
      between.updateBucket source.account source.bucket.id source.bucket.revision
        (settingsWithRule source.bucket key.id
          (ruleToAdd settings source.bucket destination.bucket wished)) =
        (.ok handle.bucket, after) ∧
      handle.account = source.account := by
  rw [(setupSource_yields settings source destination wished accounts).outcome_eq] at succeeded
  obtain ⟨key, between, chosen, stored⟩ := Outcome.bind_eq_ok succeeded
  refine ⟨key, between, chosen, ?_⟩
  dsimp only at stored
  split at stored
  · cases stored
  · exact Handle.update_ok stored

theorem setupSource_error
    (failed : (setupSource Accounts.gateway settings source destination wished).outcome
      accounts = (.error error, after)) : accounts.AddsKey after := by
  rw [(setupSource_yields settings source destination wished accounts).outcome_eq] at failed
  rcases Outcome.bind_eq_error failed with chosen | ⟨key, between, chosen, refused⟩
  · exact sourceKey_addsKey chosen
  · dsimp only at refused
    split at refused
    · cases refused
      exact sourceKey_addsKey chosen
    · rw [Handle.update_error refused]
      exact sourceKey_addsKey chosen

/-! ## The destination side -/

theorem setupDestination_yields (settings : SetupSettings) (sourceKeyId : String)
    (destination : Handle) (accounts : Accounts) :
    (setupDestination Accounts.gateway settings sourceKeyId destination).Yields accounts
      (Outcome.bind
        ((destinationKey Accounts.gateway settings destination
          destination.bucket.keyMapping).outcome accounts)
        fun (_, key) between =>
          (destination.update Accounts.gateway destination.bucket.revision
            (settingsWithMapping destination.bucket sourceKeyId key.id)).outcome between) := by
  unfold setupDestination
  refine .bind (destinationKey_yields settings destination _ accounts).yields_outcome
    fun found between => ?_
  obtain ⟨deleted, key⟩ := found
  have stored := (Handle.update_yields destination destination.bucket.revision
    (settingsWithMapping destination.bucket sourceKeyId key.id) between).yields_outcome
  dsimp only
  split
  · exact .after_report (.after_report stored)
  · exact .after_report stored

theorem setupDestination_of_chosen {sourceKeyId : String} {deleted : List String}
    {key : ApplicationKey} {between : Accounts}
    (chosen : (destinationKey Accounts.gateway settings destination
      destination.bucket.keyMapping).outcome accounts = (.ok (deleted, key), between)) :
    (setupDestination Accounts.gateway settings sourceKeyId destination).outcome accounts =
      (destination.update Accounts.gateway destination.bucket.revision
        (settingsWithMapping destination.bucket sourceKeyId key.id)).outcome between := by
  rw [(setupDestination_yields settings sourceKeyId destination accounts).outcome_eq, chosen]
  rfl

theorem setupDestination_ok {sourceKeyId : String} {handle : Handle}
    (succeeded : (setupDestination Accounts.gateway settings sourceKeyId destination).outcome
      accounts = (.ok handle, after)) :
    ∃ deleted key between,
      (destinationKey Accounts.gateway settings destination
        destination.bucket.keyMapping).outcome accounts = (.ok (deleted, key), between) ∧
      between.updateBucket destination.account destination.bucket.id
        destination.bucket.revision
        (settingsWithMapping destination.bucket sourceKeyId key.id) =
        (.ok handle.bucket, after) ∧
      handle.account = destination.account := by
  rw [(setupDestination_yields settings sourceKeyId destination accounts).outcome_eq] at succeeded
  obtain ⟨⟨deleted, key⟩, between, chosen, stored⟩ := Outcome.bind_eq_ok succeeded
  exact ⟨deleted, key, between, chosen, Handle.update_ok stored⟩

theorem setupDestination_error {sourceKeyId : String}
    (failed : (setupDestination Accounts.gateway settings sourceKeyId destination).outcome
      accounts = (.error error, after)) : accounts.AddsKey after := by
  rw [(setupDestination_yields settings sourceKeyId destination accounts).outcome_eq] at failed
  rcases Outcome.bind_eq_error failed with chosen | ⟨found, between, chosen, refused⟩
  · exact destinationKey_addsKey chosen
  · rw [Handle.update_error refused]
    exact destinationKey_addsKey chosen

/-! ## Both sides -/

theorem setupSource_names_key {handle : Handle}
    (succeeded : (setupSource Accounts.gateway settings source destination wished).outcome
      accounts = (.ok handle, after)) :
    ∃ keyId, handle.bucket.sourceKeyId = some keyId := by
  obtain ⟨key, between, _, stored, _⟩ := setupSource_ok succeeded
  obtain ⟨_, _, _, _, updated, _⟩ := Accounts.updateBucket_ok stored
  exact ⟨key.id, by rw [updated]; rfl⟩

/-- Both sides on any backend, as long as the outcome of each depends on the backend alone. -/
theorem setupBoth_yields_of {σ : Type} {gateway : Gateway σ} {before : σ}
    (sourceSide : (setupSource gateway settings source destination wished).Yields before
      ((setupSource gateway settings source destination wished).outcome before))
    (destinationSide : ∀ sourceKeyId between,
      (setupDestination gateway settings sourceKeyId destination).Yields between
        ((setupDestination gateway settings sourceKeyId destination).outcome between)) :
    (setupBoth gateway settings source destination wished).Yields before
      (Outcome.bind ((setupSource gateway settings source destination wished).outcome before)
        fun newSource between =>
          match newSource.bucket.sourceKeyId with
          | none =>
            (.error (.internal ("bucket " ++ newSource.bucket.name ++
              " has no source key after replication setup")), between)
          | some sourceKeyId =>
            Outcome.bind
              ((setupDestination gateway settings sourceKeyId destination).outcome between)
              fun newDestination after => (.ok (newSource, newDestination), after)) := by
  unfold setupBoth
  refine .bind sourceSide fun newSource between => ?_
  cases newSource.bucket.sourceKeyId with
  | none => exact .throw _
  | some sourceKeyId =>
      exact .bind (destinationSide sourceKeyId between) fun newDestination _ => .pure _

theorem setupBoth_yields (settings : SetupSettings) (source destination : Handle)
    (wished : NewRule) (accounts : Accounts) :
    (setupBoth Accounts.gateway settings source destination wished).Yields accounts
      (Outcome.bind
        ((setupSource Accounts.gateway settings source destination wished).outcome accounts)
        fun newSource between =>
          match newSource.bucket.sourceKeyId with
          | none =>
            (.error (.internal ("bucket " ++ newSource.bucket.name ++
              " has no source key after replication setup")), between)
          | some sourceKeyId =>
            Outcome.bind
              ((setupDestination Accounts.gateway settings sourceKeyId
                destination).outcome between)
              fun newDestination after => (.ok (newSource, newDestination), after)) :=
  setupBoth_yields_of
    (setupSource_yields settings source destination wished accounts).yields_outcome
    fun sourceKeyId between =>
      (setupDestination_yields settings sourceKeyId destination between).yields_outcome

theorem setupBoth_ok {newSource newDestination : Handle}
    (succeeded : (setupBoth Accounts.gateway settings source destination wished).outcome
      accounts = (.ok (newSource, newDestination), after)) :
    ∃ keyId between,
      (setupSource Accounts.gateway settings source destination wished).outcome accounts =
        (.ok newSource, between) ∧
      newSource.bucket.sourceKeyId = some keyId ∧
      (setupDestination Accounts.gateway settings keyId destination).outcome between =
        (.ok newDestination, after) := by
  rw [(setupBoth_yields settings source destination wished accounts).outcome_eq] at succeeded
  obtain ⟨added, between, sourceSide, rest⟩ := Outcome.bind_eq_ok succeeded
  obtain ⟨keyId, names⟩ := setupSource_names_key sourceSide
  rw [names] at rest
  obtain ⟨mapped, reached, destinationSide, answered⟩ := Outcome.bind_eq_ok rest
  cases answered
  exact ⟨keyId, between, sourceSide, names, destinationSide⟩

theorem setupBoth_error
    (failed : (setupBoth Accounts.gateway settings source destination wished).outcome
      accounts = (.error error, after)) :
    (setupSource Accounts.gateway settings source destination wished).outcome accounts =
        (.error error, after) ∨
      ∃ newSource keyId between,
        (setupSource Accounts.gateway settings source destination wished).outcome accounts =
          (.ok newSource, between) ∧
        newSource.bucket.sourceKeyId = some keyId ∧
        (setupDestination Accounts.gateway settings keyId destination).outcome between =
          (.error error, after) := by
  rw [(setupBoth_yields settings source destination wished accounts).outcome_eq] at failed
  rcases Outcome.bind_eq_error failed with sourceSide | ⟨added, between, sourceSide, rest⟩
  · exact .inl sourceSide
  · obtain ⟨keyId, names⟩ := setupSource_names_key sourceSide
    rw [names] at rest
    rcases Outcome.bind_eq_error rest with destinationSide | ⟨_, _, _, answered⟩
    · exact .inr ⟨added, keyId, between, sourceSide, names, destinationSide⟩
    · cases answered

end Setup

end BucketReplication
