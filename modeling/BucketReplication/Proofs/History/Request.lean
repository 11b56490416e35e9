import BucketReplication.Proofs.History.Chronicle
import BucketReplication.Proofs.Setup.Outcome

/-! # Requests

What clients ask of accounts, carried out on a chronicle. A record that was
stored becomes a version even if the request fails after that, as a setup of
both sides can. However many steps a request takes, each of them is one write,
and the handles that it answers with were current when they were read. -/

namespace BucketReplication

/-- What a client can ask for. The calls of a setup need not come at one moment:
a setup that chose its key earlier only has an update left, which is a request
of its own. -/
inductive Request where
  | createBucket (account name : String)
  | fetch (account name : String)
  | findBucket (account bucketId : String)
  | createKey (account : String) (request : KeyRequest)
  | deleteKey (account keyId : String)
  | update (account bucketId : String) (revision : UInt64) (settings : ReplicationSettings)
  | setupSource (settings : SetupSettings) (source destination : Handle) (wished : NewRule)
  | setupDestination (settings : SetupSettings) (sourceKeyId : String) (destination : Handle)
  | setupBoth (settings : SetupSettings) (source destination : Handle) (wished : NewRule)
  | storeRule (settings : SetupSettings) (source destination : Handle) (wished : NewRule)
      (keyId : String)
  | storeMapping (destination : Handle) (sourceKeyId destinationKeyId : String)
deriving DecidableEq

def Request.written : Request → List Handle
  | .setupSource _ source _ _ => [source]
  | .setupDestination _ _ destination => [destination]
  | .setupBoth _ source destination _ => [source, destination]
  | .storeRule _ source _ _ _ => [source]
  | .storeMapping destination _ _ => [destination]
  | _ => []

/-- A handle that was handed out, with the number of versions that were there
when it was read. -/
structure Snapshot where
  handle : Handle
  count : Nat
deriving DecidableEq

namespace Chronicle

def noted (chronicle : Chronicle) : Outcome Accounts Handle → List Snapshot × Chronicle
  | (.ok handle, after) =>
    ([⟨handle, chronicle.versions.length⟩], { chronicle with accounts := after })
  | (.error _, after) => ([], { chronicle with accounts := after })

def recorded (chronicle : Chronicle) (origin : Origin) :
    Outcome Accounts Handle → List Snapshot × Chronicle
  | (.ok handle, after) =>
    ([⟨handle, chronicle.versions.length + 1⟩],
      ⟨after, chronicle.versions ++ [⟨handle.account, handle.bucket, origin⟩]⟩)
  | (.error _, after) => ([], { chronicle with accounts := after })

def mappingOrigin (settings : SetupSettings) (sourceKeyId : String) (destination : Handle)
    (accounts : Accounts) : Origin :=
  match ((Setup.destinationKey Accounts.gateway settings destination
    destination.bucket.keyMapping).outcome accounts).1 with
  | .ok (_, key) => .keyMapped sourceKeyId key.id
  | .error _ => .created

def setupSource (chronicle : Chronicle) (settings : SetupSettings) (source destination : Handle)
    (wished : NewRule) : List Snapshot × Chronicle :=
  chronicle.recorded (.ruleAdded (Setup.ruleToAdd settings source.bucket destination.bucket wished))
    ((Setup.setupSource Accounts.gateway settings source destination wished).outcome
      chronicle.accounts)

def setupDestination (chronicle : Chronicle) (settings : SetupSettings) (sourceKeyId : String)
    (destination : Handle) : List Snapshot × Chronicle :=
  chronicle.recorded (mappingOrigin settings sourceKeyId destination chronicle.accounts)
    ((Setup.setupDestination Accounts.gateway settings sourceKeyId destination).outcome
      chronicle.accounts)

/-- A source side that succeeds is recorded whatever becomes of the destination
side. -/
def setupBoth (chronicle : Chronicle) (settings : SetupSettings) (source destination : Handle)
    (wished : NewRule) : List Snapshot × Chronicle :=
  let between := (chronicle.setupSource settings source destination wished).2
  match (Setup.setupBoth Accounts.gateway settings source destination wished).outcome
    chronicle.accounts with
  | (.ok (newSource, newDestination), after) =>
    let origin := mappingOrigin settings (newSource.bucket.sourceKeyId.getD "") destination
      between.accounts
    ([⟨newSource, between.versions.length⟩, ⟨newDestination, between.versions.length + 1⟩],
      ⟨after,
        between.versions ++ [⟨newDestination.account, newDestination.bucket, origin⟩]⟩)
  | (.error _, after) => ([], { between with accounts := after })

def carryOut (chronicle : Chronicle) : Request → List Snapshot × Chronicle
  | .createBucket account name =>
    chronicle.recorded .created
      (.onAccount account (chronicle.accounts.createBucket account name))
  | .fetch account name =>
    chronicle.noted ((Handle.fetch Accounts.gateway account name).outcome chronicle.accounts)
  | .findBucket account bucketId =>
    match chronicle.accounts.bucket? account bucketId with
    | some bucket => ([⟨⟨account, bucket⟩, chronicle.versions.length⟩], chronicle)
    | none => ([], chronicle)
  | .createKey account request =>
    ([], { chronicle with accounts := (chronicle.accounts.createKey account request).2 })
  | .deleteKey account keyId =>
    ([], { chronicle with accounts := (chronicle.accounts.deleteKey account keyId).2 })
  | .update account bucketId revision settings =>
    chronicle.recorded .replaced
      (.onAccount account (chronicle.accounts.updateBucket account bucketId revision settings))
  | .setupSource settings source destination wished =>
    chronicle.setupSource settings source destination wished
  | .setupDestination settings sourceKeyId destination =>
    chronicle.setupDestination settings sourceKeyId destination
  | .setupBoth settings source destination wished =>
    chronicle.setupBoth settings source destination wished
  | .storeRule settings source destination wished keyId =>
    let rule := Setup.ruleToAdd settings source.bucket destination.bucket wished
    chronicle.recorded (.ruleAdded rule)
      ((source.update Accounts.gateway source.bucket.revision
        (Setup.settingsWithRule source.bucket keyId rule)).outcome chronicle.accounts)
  | .storeMapping destination sourceKeyId destinationKeyId =>
    chronicle.recorded (.keyMapped sourceKeyId destinationKeyId)
      ((destination.update Accounts.gateway destination.bucket.revision
        (Setup.settingsWithMapping destination.bucket sourceKeyId destinationKeyId)).outcome
        chronicle.accounts)

/-! ## The accounts after a request -/

theorem accounts_noted (chronicle : Chronicle) (outcome : Outcome Accounts Handle) :
    (chronicle.noted outcome).2.accounts = outcome.2 := by
  rcases outcome with ⟨error | handle, after⟩ <;> rfl

theorem accounts_recorded (chronicle : Chronicle) (origin : Origin)
    (outcome : Outcome Accounts Handle) :
    (chronicle.recorded origin outcome).2.accounts = outcome.2 := by
  rcases outcome with ⟨error | handle, after⟩ <;> rfl

theorem accounts_createBucket (chronicle : Chronicle) (account name : String) :
    (chronicle.carryOut (.createBucket account name)).2.accounts =
      (chronicle.accounts.createBucket account name).2 := by
  rw [carryOut, accounts_recorded]
  rcases chronicle.accounts.createBucket account name with ⟨error | bucket, after⟩ <;> rfl

theorem accounts_fetch (chronicle : Chronicle) (account name : String) :
    (chronicle.carryOut (.fetch account name)).2.accounts = chronicle.accounts := by
  rw [carryOut, accounts_noted, (Handle.fetch_yields account name _).outcome_eq]
  rcases (chronicle.accounts.account account).getBucketByName name with error | bucket <;> rfl

theorem accounts_findBucket (chronicle : Chronicle) (account bucketId : String) :
    (chronicle.carryOut (.findBucket account bucketId)).2.accounts = chronicle.accounts := by
  rw [carryOut]
  split <;> rfl

/-! ## Requests are writes -/

/-- The chronicle was reached by writes, and what was handed out was current on
the way. -/
structure Moves (used : Handle → Prop) (before : Chronicle)
    (answer : List Snapshot × Chronicle) : Prop where
  writes : Writes used before answer.2
  current : ∀ snapshot ∈ answer.1, ∃ moment, Writes used before moment ∧
    Writes used moment answer.2 ∧ moment.Current snapshot.handle ∧
    snapshot.count = moment.versions.length

variable {used : Handle → Prop} {chronicle : Chronicle}

namespace Moves

theorem silent {after : Chronicle} (writes : Writes used chronicle after) :
    Moves used chronicle ([], after) :=
  ⟨writes, nofun⟩

theorem single {after : Chronicle} {handle : Handle} {count : Nat}
    (writes : Writes used chronicle after) (current : after.Current handle)
    (counted : count = after.versions.length) :
    Moves used chronicle ([⟨handle, count⟩], after) := by
  refine ⟨writes, fun snapshot handed => ?_⟩
  cases List.mem_singleton.1 handed
  exact ⟨after, writes, .refl, current, counted⟩

theorem recorded {origin : Origin} {outcome : Outcome Accounts Handle}
    (stores : ∀ handle after, outcome = (.ok handle, after) →
      Writes used chronicle
        ⟨after, chronicle.versions ++ [⟨handle.account, handle.bucket, origin⟩]⟩ ∧
      after.bucket? handle.account handle.bucket.id = some handle.bucket)
    (fails : ∀ error after, outcome = (.error error, after) →
      Writes used chronicle { chronicle with accounts := after }) :
    Moves used chronicle (chronicle.recorded origin outcome) := by
  rcases outcome with ⟨error | handle, after⟩
  · exact silent (fails error after rfl)
  · have stored := stores handle after rfl
    exact single stored.1 stored.2 (by simp)

end Moves

theorem current_updateBucket {accounts after : Accounts} {account bucketId : String}
    {revision : UInt64} {settings : ReplicationSettings} {bucket : Bucket}
    (updated : accounts.updateBucket account bucketId revision settings = (.ok bucket, after)) :
    after.bucket? account bucket.id = some bucket := by
  rw [Accounts.bucket?_updateBucket updated, if_pos ⟨rfl, rfl⟩]

theorem createBucket_moves (chronicle : Chronicle) (account name : String) :
    Moves used chronicle (chronicle.recorded .created
      (.onAccount account (chronicle.accounts.createBucket account name))) := by
  apply Moves.recorded
  · intro handle after result
    rcases Outcome.onAccount_eq_ok result with ⟨created, rfl⟩
    refine ⟨.single (.createBucket created), ?_⟩
    rw [Accounts.bucket?_createBucket created, if_pos ⟨rfl, rfl⟩]
  · intro error after result
    rw [Accounts.createBucket_error (Outcome.onAccount_eq_error result)]

theorem fetch_moves (chronicle : Chronicle) (account name : String) :
    Moves used chronicle (chronicle.noted
      ((Handle.fetch Accounts.gateway account name).outcome chronicle.accounts)) := by
  rcases result : (Handle.fetch Accounts.gateway account name).outcome chronicle.accounts with
    ⟨error | handle, after⟩
  · rw [Handle.fetch_error result]
    exact .silent .refl
  · rcases Handle.fetch_ok result with ⟨found, same⟩
    rw [same]
    exact .single .refl found rfl

theorem findBucket_moves (chronicle : Chronicle) (account bucketId : String) :
    Moves used chronicle (chronicle.carryOut (.findBucket account bucketId)) := by
  rw [carryOut]
  cases found : chronicle.accounts.bucket? account bucketId with
  | none => exact .silent .refl
  | some bucket =>
      have same : bucket.id = bucketId := Accounts.bucket?_id found
      refine .single .refl ?_ rfl
      rw [← same] at found
      exact found

theorem addsKey_writes {accounts after : Accounts} (adds : accounts.AddsKey after)
    (versions : List Version) : Writes used ⟨accounts, versions⟩ ⟨after, versions⟩ := by
  rcases adds with rfl | ⟨name, request, key, created⟩
  · exact .refl
  · exact .single (.createKey created)

theorem update_moves {account bucketId : String} {revision : UInt64}
    {settings : ReplicationSettings} {origin : Origin}
    (intent : Intent used account bucketId revision settings origin) :
    Moves used chronicle (chronicle.recorded origin
      (.onAccount account
        (chronicle.accounts.updateBucket account bucketId revision settings))) := by
  apply Moves.recorded
  · intro handle after result
    rcases Outcome.onAccount_eq_ok result with ⟨updated, rfl⟩
    exact ⟨.single (.update intent updated), current_updateBucket updated⟩
  · intro error after result
    rw [Accounts.updateBucket_error (Outcome.onAccount_eq_error result)]

theorem setupSource_moves (chronicle : Chronicle) (settings : SetupSettings)
    {source : Handle} (destination : Handle) (wished : NewRule) (held : used source) :
    Moves used chronicle (chronicle.setupSource settings source destination wished) := by
  apply Moves.recorded
  · intro handle after succeeded
    rcases Setup.setupSource_ok succeeded with ⟨key, between, chosen, updated, same⟩
    rw [same]
    refine ⟨?_, current_updateBucket updated⟩
    exact (addsKey_writes (Setup.sourceKey_addsKey chosen) chronicle.versions).tail
      (.update (.ruleAdded held _ _) updated)
  · intro error after failed
    exact addsKey_writes (Setup.setupSource_error failed) chronicle.versions

theorem setupDestination_moves (chronicle : Chronicle) (settings : SetupSettings)
    (sourceKeyId : String) {destination : Handle} (held : used destination) :
    Moves used chronicle (chronicle.setupDestination settings sourceKeyId destination) := by
  apply Moves.recorded
  · intro handle after succeeded
    rcases Setup.setupDestination_ok succeeded with ⟨deleted, key, between, chosen, updated, same⟩
    rw [same, mappingOrigin, chosen]
    refine ⟨?_, current_updateBucket updated⟩
    exact (addsKey_writes (Setup.destinationKey_addsKey chosen) chronicle.versions).tail
      (.update (.keyMapped held _ _) updated)
  · intro error after failed
    exact addsKey_writes (Setup.setupDestination_error failed) chronicle.versions

theorem setupBoth_after (chronicle : Chronicle) (settings : SetupSettings)
    (source destination : Handle) (wished : NewRule) :
    (chronicle.setupBoth settings source destination wished).2 =
      match (Setup.setupSource Accounts.gateway settings source destination wished).outcome
        chronicle.accounts with
      | (.ok newSource, _) =>
        ((chronicle.setupSource settings source destination wished).2.setupDestination settings
          (newSource.bucket.sourceKeyId.getD "") destination).2
      | (.error _, _) => (chronicle.setupSource settings source destination wished).2 := by
  rcases result : (Setup.setupBoth Accounts.gateway settings source destination wished).outcome
      chronicle.accounts with ⟨error | ⟨newSource, newDestination⟩, after⟩
  · rcases Setup.setupBoth_error result with
      sourceSide | ⟨newSource, keyId, between, sourceSide, names, destinationSide⟩
    · simp [setupBoth, setupSource, result, sourceSide, recorded]
    · simp [setupBoth, setupSource, setupDestination, result, sourceSide, names, destinationSide,
        recorded]
  · rcases Setup.setupBoth_ok result with ⟨keyId, between, sourceSide, names, destinationSide⟩
    simp [setupBoth, setupSource, setupDestination, result, sourceSide, names, destinationSide,
      recorded]

theorem setupBoth_handed {settings : SetupSettings} {source destination : Handle}
    {wished : NewRule} {snapshot : Snapshot}
    (handed : snapshot ∈ (chronicle.setupBoth settings source destination wished).1) :
    ∃ newSource between,
      (Setup.setupSource Accounts.gateway settings source destination wished).outcome
        chronicle.accounts = (.ok newSource, between) ∧
      (snapshot ∈ (chronicle.setupSource settings source destination wished).1 ∨
        snapshot ∈ ((chronicle.setupSource settings source destination wished).2.setupDestination
          settings (newSource.bucket.sourceKeyId.getD "") destination).1) := by
  rcases result : (Setup.setupBoth Accounts.gateway settings source destination wished).outcome
      chronicle.accounts with ⟨error | ⟨newSource, newDestination⟩, after⟩
  · simp [setupBoth, result] at handed
  · rcases Setup.setupBoth_ok result with ⟨keyId, between, sourceSide, names, destinationSide⟩
    refine ⟨newSource, between, sourceSide, ?_⟩
    simpa [setupBoth, setupSource, setupDestination, result, sourceSide, names, destinationSide,
      recorded] using handed

theorem setupBoth_moves (chronicle : Chronicle) (settings : SetupSettings)
    {source destination : Handle} (wished : NewRule) (heldSource : used source)
    (heldDestination : used destination) :
    Moves used chronicle (chronicle.setupBoth settings source destination wished) := by
  have sourceMoves := chronicle.setupSource_moves settings destination wished heldSource
  have destinationMoves (keyId : String) := setupDestination_moves
    (chronicle.setupSource settings source destination wished).2 settings keyId heldDestination
  constructor
  · rw [setupBoth_after]
    split
    · exact sourceMoves.writes.trans (destinationMoves _).writes
    · exact sourceMoves.writes
  · intro snapshot handed
    rcases setupBoth_handed handed with ⟨newSource, between, result, fromSource | fromDestination⟩
    · rcases sourceMoves.current snapshot fromSource with ⟨moment, before, after, rest⟩
      refine ⟨moment, before, ?_, rest⟩
      rw [setupBoth_after, result]
      exact after.trans (destinationMoves _).writes
    · rcases (destinationMoves _).current snapshot fromDestination with
        ⟨moment, before, after, rest⟩
      refine ⟨moment, sourceMoves.writes.trans before, ?_, rest⟩
      rw [setupBoth_after, result]
      exact after

theorem carryOut_moves (chronicle : Chronicle) (request : Request) :
    Moves (· ∈ request.written) chronicle (chronicle.carryOut request) := by
  cases request with
  | createBucket account name => exact chronicle.createBucket_moves account name
  | fetch account name => exact chronicle.fetch_moves account name
  | findBucket account bucketId => exact chronicle.findBucket_moves account bucketId
  | createKey account request =>
      exact .silent (addsKey_writes (chronicle.accounts.createKey_addsKey account request)
        chronicle.versions)
  | deleteKey account keyId => exact .silent (.single (.deleteKey account keyId))
  | update account bucketId revision settings =>
      exact update_moves (.replaced account bucketId revision settings)
  | setupSource settings source destination wished =>
      exact chronicle.setupSource_moves settings destination wished (by simp [Request.written])
  | setupDestination settings sourceKeyId destination =>
      exact chronicle.setupDestination_moves settings sourceKeyId (by simp [Request.written])
  | setupBoth settings source destination wished =>
      exact chronicle.setupBoth_moves settings wished (by simp [Request.written])
        (by simp [Request.written])
  | storeRule settings source destination wished keyId =>
      rw [carryOut, (Handle.update_yields source _ _ chronicle.accounts).outcome_eq]
      exact update_moves (.ruleAdded (by simp [Request.written]) keyId _)
  | storeMapping destination sourceKeyId destinationKeyId =>
      rw [carryOut, (Handle.update_yields destination _ _ chronicle.accounts).outcome_eq]
      exact update_moves (.keyMapped (by simp [Request.written]) sourceKeyId destinationKeyId)

end Chronicle

end BucketReplication
