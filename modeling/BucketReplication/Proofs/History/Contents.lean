import BucketReplication.Proofs.History.Session

/-! # No update is lost

A setup writes back the settings of a bucket as a whole, as they follow from a
snapshot. If all settings are stored by setups, the rules of a bucket are those
that setups committed, in order, and its key mapping is what the committed
mappings come to one after the other: nothing is lost to a setup that started
from an old snapshot. -/

namespace BucketReplication

def Request.isDirectUpdate : Request → Bool
  | .update .. => true
  | _ => false

namespace Chronicle

variable {chronicle : Chronicle}

/-! ## What a request commits -/

def committed (origin : Origin) (account bucketId : String)
    (outcome : Outcome Accounts Handle) : List Origin :=
  match outcome.1 with
  | .ok handle =>
    if handle.account = account ∧ handle.bucket.id = bucketId then [origin] else []
  | .error _ => []

/-- What a request commits to a bucket. The source side of a setup of both sides
is committed even if the destination side then fails. -/
def commits (accounts : Accounts) (account bucketId : String) : Request → List Origin
  | .createBucket owner name =>
    committed .created account bucketId (.onAccount owner (accounts.createBucket owner name))
  | .update owner id revision settings =>
    committed .replaced account bucketId
      (.onAccount owner (accounts.updateBucket owner id revision settings))
  | .setupSource settings source destination wished =>
    committed (.ruleAdded (Setup.ruleToAdd settings source.bucket destination.bucket wished))
      account bucketId
      ((Setup.setupSource Accounts.gateway settings source destination wished).outcome accounts)
  | .setupDestination settings sourceKeyId destination =>
    committed (mappingOrigin settings sourceKeyId destination accounts) account bucketId
      ((Setup.setupDestination Accounts.gateway settings sourceKeyId destination).outcome accounts)
  | .setupBoth settings source destination wished =>
    let sourceSide :=
      (Setup.setupSource Accounts.gateway settings source destination wished).outcome accounts
    committed (.ruleAdded (Setup.ruleToAdd settings source.bucket destination.bucket wished))
        account bucketId sourceSide ++
      match sourceSide with
      | (.ok newSource, between) =>
        let keyId := newSource.bucket.sourceKeyId.getD ""
        committed (mappingOrigin settings keyId destination between) account bucketId
          ((Setup.setupDestination Accounts.gateway settings keyId destination).outcome between)
      | (.error _, _) => []
  | .storeRule settings source destination wished keyId =>
    let rule := Setup.ruleToAdd settings source.bucket destination.bucket wished
    committed (.ruleAdded rule) account bucketId
      ((source.update Accounts.gateway source.bucket.revision
        (Setup.settingsWithRule source.bucket keyId rule)).outcome accounts)
  | .storeMapping destination sourceKeyId destinationKeyId =>
    committed (.keyMapped sourceKeyId destinationKeyId) account bucketId
      ((destination.update Accounts.gateway destination.bucket.revision
        (Setup.settingsWithMapping destination.bucket sourceKeyId destinationKeyId)).outcome
        accounts)
  | .fetch .. => []
  | .findBucket .. => []
  | .createKey .. => []
  | .deleteKey .. => []

theorem originsOf_recorded (chronicle : Chronicle) (origin : Origin) (account bucketId : String)
    (outcome : Outcome Accounts Handle) :
    originsOf (chronicle.recorded origin outcome).2.versions account bucketId =
      originsOf chronicle.versions account bucketId ++
        committed origin account bucketId outcome := by
  rcases outcome with ⟨error | handle, after⟩
  · exact (List.append_nil _).symm
  · unfold originsOf
    rw [recorded, versionsOf_append, List.map_append, committed.eq_def]
    by_cases here : handle.account = account ∧ handle.bucket.id = bucketId
    · have listed : versionsOf [⟨handle.account, handle.bucket, origin⟩] account bucketId =
          [⟨handle.account, handle.bucket, origin⟩] := versionsOf_same here.1 here.2
      rw [listed]
      simp [here]
    · have unlisted : versionsOf [⟨handle.account, handle.bucket, origin⟩] account bucketId =
          [] := versionsOf_other here
      rw [unlisted]
      simp [here]

theorem originsOf_carryOut (chronicle : Chronicle) (request : Request)
    (account bucketId : String) :
    originsOf (chronicle.carryOut request).2.versions account bucketId =
      originsOf chronicle.versions account bucketId ++
        commits chronicle.accounts account bucketId request := by
  cases request with
  | fetch owner name =>
      rw [carryOut, noted.eq_def]
      split <;> exact (List.append_nil _).symm
  | findBucket owner id =>
      rw [carryOut]
      split <;> exact (List.append_nil _).symm
  | createKey owner request => exact (List.append_nil _).symm
  | deleteKey owner keyId => exact (List.append_nil _).symm
  | setupBoth settings source destination wished =>
      have sourceSide :
          originsOf (chronicle.setupSource settings source destination wished).2.versions account
            bucketId = _ := originsOf_recorded ..
      rw [carryOut, setupBoth_after, commits, ← List.append_assoc, ← sourceSide]
      rcases result : (Setup.setupSource Accounts.gateway settings source destination
          wished).outcome chronicle.accounts with ⟨error | newSource, between⟩
      · exact (List.append_nil _).symm
      · have reached : (chronicle.setupSource settings source destination wished).2.accounts =
            between := by
          rw [setupSource, result]
          rfl
        subst reached
        exact originsOf_recorded ..
  | createBucket owner name => exact originsOf_recorded ..
  | update owner id revision settings => exact originsOf_recorded ..
  | setupSource settings source destination wished => exact originsOf_recorded ..
  | setupDestination settings sourceKeyId destination => exact originsOf_recorded ..
  | storeRule settings source destination wished keyId => exact originsOf_recorded ..
  | storeMapping destination sourceKeyId destinationKeyId => exact originsOf_recorded ..

theorem eq_of_mem_committed {origin other : Origin} {account bucketId : String}
    {outcome : Outcome Accounts Handle}
    (recorded : other ∈ committed origin account bucketId outcome) : other = origin := by
  unfold committed at recorded
  split at recorded
  · split at recorded
    · exact List.mem_singleton.1 recorded
    · exact absurd recorded List.not_mem_nil
  · exact absurd recorded List.not_mem_nil

theorem mappingOrigin_ne_replaced (settings : SetupSettings) (sourceKeyId : String)
    (destination : Handle) (accounts : Accounts) :
    mappingOrigin settings sourceKeyId destination accounts ≠ .replaced := by
  unfold mappingOrigin
  split <;> exact nofun

theorem replaced_not_mem_commits {accounts : Accounts} {request : Request}
    (setUp : request.isDirectUpdate = false) (account bucketId : String) :
    .replaced ∉ commits accounts account bucketId request := by
  intro recorded
  cases request with
  | createBucket owner name => cases eq_of_mem_committed recorded
  | update owner id revision settings => cases setUp
  | setupSource settings source destination wished => cases eq_of_mem_committed recorded
  | setupDestination settings sourceKeyId destination =>
      exact mappingOrigin_ne_replaced _ _ _ _ (eq_of_mem_committed recorded).symm
  | setupBoth settings source destination wished =>
      rcases List.mem_append.1 recorded with ofSource | ofDestination
      · cases eq_of_mem_committed ofSource
      · split at ofDestination
        · exact mappingOrigin_ne_replaced _ _ _ _ (eq_of_mem_committed ofDestination).symm
        · exact absurd ofDestination List.not_mem_nil
  | storeRule settings source destination wished keyId => cases eq_of_mem_committed recorded
  | storeMapping destination sourceKeyId destinationKeyId =>
      cases eq_of_mem_committed recorded
  | fetch owner name => exact absurd recorded List.not_mem_nil
  | findBucket owner id => exact absurd recorded List.not_mem_nil
  | createKey owner request => exact absurd recorded List.not_mem_nil
  | deleteKey owner keyId => exact absurd recorded List.not_mem_nil

end Chronicle

namespace Session

theorem Reached.replaced_not_mem {session : Session}
    (reached : Reached (fun _ request => request.isDirectUpdate = false) session)
    (account bucketId : String) : .replaced ∉ originsOf session.versions account bucketId := by
  induction reached with
  | start ids => exact List.not_mem_nil
  | @step session request earlier holds setUp induction =>
      have committed := session.chronicle.originsOf_carryOut request account bucketId
      intro recorded
      rw [versions, Session.step, committed] at recorded
      rcases List.mem_append.1 recorded with before | new
      · exact induction before
      · exact Chronicle.replaced_not_mem_commits setUp account bucketId new

/-- In any run of setups, the rules of a bucket are those that setups committed to
it, and its key mapping is that of the committed mappings, inserted in order. Each
request adds to the record exactly what it commits, so nothing that was committed
is ever lost or repeated. -/
theorem contents_follow_commits {session : Session}
    (reached : Reached (fun _ request => request.isDirectUpdate = false) session)
    (distinct : session.accounts.IdsDistinct)
    (few : UpdatesBelow session.versions (UInt64.size - 1)) :
    (∀ account id bucket, session.accounts.bucket? account id = some bucket →
      bucket.rules = rulesAdded session.versions account id ∧
      bucket.keyMapping = (keysMapped session.versions account id).foldl
        (fun mapping entry => KeyMapping.map mapping entry.1 entry.2) .empty) ∧
    ∀ request account id,
      originsOf (session.step request).versions account id =
        originsOf session.versions account id ++
          Chronicle.commits session.accounts account id request := by
  have sound := reached.sound ⟨distinct, few⟩
  constructor
  · intro account id bucket found
    have lineage := sound.coherent.lineage found
    have setUp := reached.replaced_not_mem account id
    exact ⟨lineage.rules_eq setUp, lineage.keyMapping_eq setUp⟩
  · intro request account id
    exact session.chronicle.originsOf_carryOut request account id

theorem contents_follow_commits_tour :
    Reached (fun _ request => request.isDirectUpdate = false) tour ∧
      tour.accounts.IdsDistinct ∧ UpdatesBelow tour.versions (UInt64.size - 1) ∧
      ∃ bucket, tour.accounts.bucket? "west" "bucket-1" = some bucket ∧
        bucket.rules = rulesAdded tour.versions "west" "bucket-1" ∧
        bucket.rules = [.new "backup" "bucket-2"] := by
  have reached : Reached (fun _ request => request.isDirectUpdate = false) tour :=
    .run (.start tourIds) (by decide)
  have present : (tour.accounts.bucket? "west" "bucket-1").isSome = true := by decide
  rcases Option.isSome_iff_exists.1 present with ⟨bucket, found⟩
  have contents := (contents_follow_commits reached tour_distinct tour_few).1 _ _ bucket found
  have added : rulesAdded tour.versions "west" "bucket-1" = [.new "backup" "bucket-2"] := by
    decide
  exact ⟨reached, tour_distinct, tour_few, bucket, found, contents.1, contents.1.trans added⟩

end Session

end BucketReplication
