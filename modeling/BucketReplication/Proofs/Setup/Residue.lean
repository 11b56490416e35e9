import BucketReplication.Proofs.Accounts.Front
import BucketReplication.Proofs.Setup.BothConversation
import BucketReplication.Proofs.Setup.Outcome

/-! # What a failed setup leaves behind

A setup that fails takes nothing back. One side leaves all buckets as they were and at most
one key more, the one that it created before it failed. A setup of both sides leaves what
its source side stored. This holds as well if something in front of the accounts answers
calls with errors of its own. -/

namespace BucketReplication

open Procedure (Conducts)

namespace Setup

namespace Side

/-- A side made a new key: none that its settings name is fit, all look-ups went through,
and so did the creation. -/
def Renews (side : Side) (accounts : Accounts) (exchanges : List Exchange) : Prop :=
  (∀ keyId ∈ side.keyIds, ∀ key, accounts.key? side.handle.account keyId = some key →
    key.isFitFor side.role = false) ∧
  (∀ exchange ∈ exchanges, exchange.call.operation = .getKey → exchange.error? = none) ∧
  ∃ exchange ∈ exchanges, exchange.created?.isSome = true

/-- What a side that failed leaves behind. -/
structure Residue (side : Side) (exchanges : List Exchange) (accounts after : Accounts) :
    Prop where
  buckets : ∀ name, (after.account name).buckets = (accounts.account name).buckets
  names : ∀ name, (after.account name).bucketIds = (accounts.account name).bucketIds
  kept : accounts.KeepsKeys after
  same : ¬ side.Renews accounts exchanges →
    ∀ name, (after.account name).keys = (accounts.account name).keys
  grown : side.Renews accounts exchanges → ∃ key, key.bucketId = some side.handle.bucket.id ∧
    ∀ name, (after.account name).keys =
      if side.handle.account = name then (accounts.account name).keys ++ [key]
      else (accounts.account name).keys

namespace Course

variable {side : Side} {lookups creations updates : List Exchange}
  {result : Except Error Handle} {accounts after : Accounts}

theorem created_iff (course : side.Course lookups creations updates result) :
    (∃ exchange ∈ lookups ++ creations ++ updates, exchange.created?.isSome = true) ↔
      ∃ exchange ∈ creations, exchange.created?.isSome = true := by
  constructor
  · rintro ⟨exchange, listed, created⟩
    rcases List.mem_append.1 listed with early | updated
    · rcases List.mem_append.1 early with looked | creation
      · simp [Exchange.created?_eq_none, course.lookups_operation exchange looked] at created
      · exact ⟨exchange, creation, created⟩
    · simp [Exchange.created?_eq_none, course.updates_operation exchange updated] at created
  · rintro ⟨exchange, creation, created⟩
    exact ⟨exchange, by simp [creation], created⟩

theorem creation_of_created (course : side.Course lookups creations updates result)
    (made : ∃ exchange ∈ creations, exchange.created?.isSome = true) :
    AllAnswered lookups ∧ side.fitKeys lookups = [] ∧
      ∃ key, creations = [⟨side.creation, .ok key⟩] := by
  rcases made with ⟨exchange, listed, created⟩
  have creates := course.creates
  split at creates
  · rename_i needed
    rcases List.map_eq_singleton_iff.1 creates with ⟨⟨call, answer⟩, rfl, same⟩
    dsimp only at same
    subst same
    rw [List.mem_singleton.1 listed] at created
    cases answer with
    | error error => cases created
    | ok key => exact ⟨needed.1, needed.2, key, rfl⟩
  · rw [List.map_eq_nil_iff.1 creates] at listed
    cases listed

theorem before_update (course : side.Course lookups creations updates result)
    (serves : Accounts.gateway.Serves accounts (lookups ++ creations ++ updates) after) :
    ∃ between, Accounts.gateway.Serves between updates after ∧
      (¬ side.Renews accounts (lookups ++ creations ++ updates) → between = accounts) ∧
      (side.Renews accounts (lookups ++ creations ++ updates) → ∃ key,
        accounts.createKey side.handle.account
          (keyRequest side.settings side.handle.bucket side.role) = (.ok key, between)) := by
  rcases serves.split with ⟨between, served, updating⟩
  rcases served.split with ⟨looked, looking, creating⟩
  have same : looked = accounts := by
    apply Accounts.serves_unchanged looking
    · intro exchange listed
      simp [Exchange.created?_eq_none, course.lookups_operation exchange listed]
    · intro exchange listed
      simp [Exchange.stored?_eq_none, course.lookups_operation exchange listed]
  subst same
  refine ⟨between, updating, ?_⟩
  have unstored : ∀ exchange ∈ creations, exchange.stored? = none := by
    intro exchange listed
    simp [Exchange.stored?_eq_none, course.creations_operation exchange listed]
  by_cases made : ∃ exchange ∈ creations, exchange.created?.isSome = true
  · rcases course.creation_of_created made with ⟨answered, unfit, key, rfl⟩
    rcases creating.answered with ⟨reached, created, rest⟩
    cases rest
    have renews : side.Renews looked (lookups ++ [⟨side.creation, .ok key⟩] ++ updates) := by
      refine ⟨?_, ?_, course.created_iff.2 made⟩
      · intro keyId named stored found
        rw [fitKeys, Accounts.serves_lookups looking answered (course.asks.all answered),
          List.filter_eq_nil_iff] at unfit
        simpa using unfit stored (List.mem_filterMap.2 ⟨keyId, named, found⟩)
      · intro exchange listed isLookup
        rcases List.mem_append.1 listed with early | updated
        · rcases List.mem_append.1 early with looked | creation
          · exact answered exchange looked
          · cases isLookup.symm.trans (course.creations_operation exchange creation)
        · cases isLookup.symm.trans (course.updates_operation exchange updated)
    exact ⟨fun unchanged => absurd renews unchanged, fun _ => ⟨key, created⟩⟩
  · have uncreated : ∀ exchange ∈ creations, exchange.created? = none := by
      simpa using made
    refine ⟨fun _ => Accounts.serves_unchanged creating uncreated unstored, fun renews => ?_⟩
    exact absurd (course.created_iff.1 renews.2.2) made

theorem update_failed {error : Error}
    (course : side.Course lookups creations updates (.error error))
    (serves : Accounts.gateway.Serves accounts updates after) : after = accounts := by
  have stores := course.stores
  split at stores
  · rcases stores with ⟨key, _, calls⟩
    rcases List.map_eq_singleton_iff.1 calls with ⟨⟨call, answer⟩, rfl, same⟩
    dsimp only at same
    subst same
    cases answer with
    | error refused =>
        apply Accounts.serves_unchanged serves
        · exact List.forall_mem_singleton.2 rfl
        · exact List.forall_mem_singleton.2 rfl
    | ok bucket =>
        -- Then the failure cannot come from the last answer, nor from an objection.
        rcases course.heeds.blames error rfl with ⟨last, isLast, refused⟩ | ⟨_, idle⟩
        · rw [List.getLast?_concat] at isLast
          cases isLast
          cases refused
        · cases idle
  · rw [stores] at serves
    cases serves
    rfl

theorem update_stored {handle : Handle}
    (course : side.Course lookups creations updates (.ok handle))
    (serves : Accounts.gateway.Serves accounts updates after) :
    ∃ keyId, accounts.updateBucket side.handle.account side.handle.bucket.id
      side.handle.bucket.revision (side.stores keyId) = (.ok handle.bucket, after) := by
  have stores := course.stores
  rcases List.map_eq_singleton_iff.1 (course.succeeds handle rfl).2 with
    ⟨⟨call, answer⟩, rfl, stored⟩
  split at stores
  · rcases stores with ⟨key, _, calls⟩
    rw [List.map_singleton, List.singleton_inj] at calls
    dsimp only at calls
    subst calls
    cases answer with
    | error error => cases stored
    | ok bucket =>
        cases stored
        rcases serves.answered with ⟨reached, updated, rest⟩
        cases rest
        exact ⟨key.id, updated⟩
  · cases stores

theorem adds_key (course : side.Course lookups creations updates result)
    (serves : Accounts.gateway.Serves accounts (lookups ++ creations ++ updates) after) :
    ∃ between, accounts.AddsKey between ∧ Accounts.gateway.Serves between updates after := by
  rcases course.before_update serves with ⟨between, updating, same, renewed⟩
  refine ⟨between, ?_, updating⟩
  by_cases renews : side.Renews accounts (lookups ++ creations ++ updates)
  · rcases renewed renews with ⟨key, created⟩
    exact .inr ⟨_, _, key, created⟩
  · exact .inl (same renews)

theorem failed_adds_key {error : Error}
    (course : side.Course lookups creations updates (.error error))
    (serves : Accounts.gateway.Serves accounts (lookups ++ creations ++ updates) after) :
    accounts.AddsKey after := by
  rcases course.adds_key serves with ⟨between, adds, updating⟩
  rw [course.update_failed updating]
  exact adds

theorem residue {error : Error}
    (course : side.Course lookups creations updates (.error error))
    (serves : Accounts.gateway.Serves accounts (lookups ++ creations ++ updates) after)
    (fresh : ∀ name, accounts.key? name accounts.ids.next = none) :
    side.Residue (lookups ++ creations ++ updates) accounts after := by
  have adds := course.failed_adds_key serves
  rcases course.before_update serves with ⟨between, updating, same, renewed⟩
  have unchanged := course.update_failed updating
  subst unchanged
  by_cases renews : side.Renews accounts (lookups ++ creations ++ updates)
  · rcases renewed renews with ⟨key, created⟩
    have granted := (Accounts.createKey_ok created).1
    have new : accounts.key? side.handle.account key.id = none := by
      rw [granted]
      exact fresh side.handle.account
    have bound : key.bucketId = some side.handle.bucket.id := by
      rw [granted]
      cases side.role <;> rfl
    exact {
      buckets := adds.view_eq fun _ _ => rfl
      names := adds.view_eq fun _ _ => rfl
      kept := Accounts.createKey_keepsKeys created new
      same := fun unneeded => absurd renews unneeded
      grown := fun _ => ⟨key, bound, Accounts.keys_createKey created new⟩ }
  · have unchanged := same renews
    subst unchanged
    exact {
      buckets := fun _ => rfl
      names := fun _ => rfl
      kept := fun _ _ _ found => found
      same := fun _ _ => rfl
      grown := fun needed => absurd needed renews }

theorem stored {handle : Handle} (course : side.Course lookups creations updates (.ok handle))
    (serves : Accounts.gateway.Serves accounts (lookups ++ creations ++ updates) after) :
    (∀ name id, after.bucket? name id =
      if side.handle.account = name ∧ side.handle.bucket.id = id then some handle.bucket
      else accounts.bucket? name id) ∧
    (∀ name, (after.account name).bucketIds = (accounts.account name).bucketIds) ∧
    ∃ keyId earlier, handle.bucket = Bucket.updated earlier (side.stores keyId) := by
  rcases course.adds_key serves with ⟨between, adds, updating⟩
  rcases course.update_stored updating with ⟨keyId, updated⟩
  rcases Accounts.updateBucket_ok updated with ⟨_, earlier, _, _, follows, changes⟩
  refine ⟨fun name id => ?_, fun name => ?_, keyId, earlier, follows⟩
  · rw [Accounts.bucket?_updateBucket updated, Accounts.updateBucket_id updated, adds.bucket?]
  · exact (changes.view_eq rfl name).trans (adds.view_eq (fun _ _ => rfl) name)

end Course

end Side

section

variable {τ : Type} {outer : Gateway τ} {backend : τ → Accounts} {proper : τ → Prop}
  (fronts : outer.Fronts Accounts.gateway backend proper) {before : τ} (starts : proper before)

include fronts starts

variable {settings : SetupSettings} {source destination : Handle} {wished : NewRule}
  {sourceKeyId : String} {error : Error} {after : τ}

theorem setupSource_residue
    (failed : (setupSource outer settings source destination wished).outcome before =
      (.error error, after))
    (fresh : ∀ name, (backend before).key? name (backend before).ids.next = none) :
    ∃ exchanges,
      Conducts outer (setupSource outer settings source destination wished)
        (setupSource outer.noting settings source destination wished) before
        (.error error, after) exchanges ∧
      (sourceSide settings source destination wished).Residue exchanges (backend before)
        (backend after) := by
  rcases setupSource_conducts outer settings source destination wished before with
    ⟨outcome, _, conducts, lookups, creations, updates, rfl, course⟩
  rw [conducts.yields.outcome_eq] at failed
  subst failed
  exact ⟨_, conducts, course.residue (fronts.serves starts conducts.answers) fresh⟩

theorem setupDestination_residue
    (failed : (setupDestination outer settings sourceKeyId destination).outcome before =
      (.error error, after))
    (fresh : ∀ name, (backend before).key? name (backend before).ids.next = none) :
    ∃ exchanges,
      Conducts outer (setupDestination outer settings sourceKeyId destination)
        (setupDestination outer.noting settings sourceKeyId destination) before
        (.error error, after) exchanges ∧
      (destinationSide settings sourceKeyId destination).Residue exchanges (backend before)
        (backend after) := by
  rcases setupDestination_conducts outer settings sourceKeyId destination before with
    ⟨outcome, _, conducts, lookups, creations, updates, rfl, course⟩
  rw [conducts.yields.outcome_eq] at failed
  subst failed
  exact ⟨_, conducts, course.residue (fronts.serves starts conducts.answers) fresh⟩

theorem setupDestination_failed_adds_key
    (failed : (setupDestination outer settings sourceKeyId destination).outcome before =
      (.error error, after)) : (backend before).AddsKey (backend after) := by
  rcases setupDestination_conducts outer settings sourceKeyId destination before with
    ⟨outcome, _, conducts, lookups, creations, updates, rfl, course⟩
  rw [conducts.yields.outcome_eq] at failed
  subst failed
  exact course.failed_adds_key (fronts.serves starts conducts.answers)

theorem setupBoth_residue
    (failed : (setupBoth outer settings source destination wished).outcome before =
      (.error error, after)) :
    let sourceRun := (setupSource outer settings source destination wished).outcome before
    (∀ name id, (source.account = name → source.bucket.id ≠ id) →
      (backend after).bucket? name id = (backend before).bucket? name id) ∧
    (∀ name, ((backend after).account name).bucketIds =
      ((backend before).account name).bucketIds) ∧
    (sourceRun = (.error error, after) ∧
      (backend after).bucket? source.account source.bucket.id =
        (backend before).bucket? source.account source.bucket.id ∨
    ∃ newSource between keyId, sourceRun = (.ok newSource, between) ∧
      newSource.bucket.sourceKeyId = some keyId ∧
      (setupDestination outer settings keyId destination).outcome between =
        (.error error, after) ∧
      (backend between).bucket? source.account source.bucket.id = some newSource.bucket ∧
      (backend after).bucket? source.account source.bucket.id = some newSource.bucket) := by
  intro sourceRun
  rcases setupSource_conducts outer settings source destination wished before with
    ⟨sourceOutcome, _, conducts, lookups, creations, updates, rfl, course⟩
  have serves := fronts.serves starts conducts.answers
  have sourceRuns : sourceRun = sourceOutcome := conducts.yields.outcome_eq
  have destinationYields (keyId : String) (between : τ) :
      (setupDestination outer settings keyId destination).Yields between
        ((setupDestination outer settings keyId destination).outcome between) := by
    rcases setupDestination_conducts outer settings keyId destination between with
      ⟨_, _, conducts, _⟩
    exact conducts.yields.yields_outcome
  have whole := setupBoth_yields_of conducts.yields.yields_outcome destinationYields
  rw [whole.outcome_eq, conducts.yields.outcome_eq] at failed
  rcases Outcome.bind_eq_error failed with sourceSide | ⟨newSource, between, sourceSide, rest⟩
  · subst sourceSide
    have adds := course.failed_adds_key serves
    exact ⟨fun name id _ => adds.bucket? name id, adds.view_eq fun _ _ => rfl,
      .inl ⟨sourceRuns, adds.bucket? _ _⟩⟩
  · subst sourceSide
    rcases course.stored serves with ⟨stores, names, keyId, earlier, follows⟩
    have stores : ∀ name id, (backend between).bucket? name id =
        if source.account = name ∧ source.bucket.id = id then some newSource.bucket
        else (backend before).bucket? name id := stores
    have named : newSource.bucket.sourceKeyId = some keyId := by
      rw [follows]
      rfl
    rw [named] at rest
    rcases Outcome.bind_eq_error rest with destinationSide | ⟨_, _, _, answered⟩
    · have adds := setupDestination_failed_adds_key fronts
        (fronts.proper_after starts conducts.answers) destinationSide
      refine ⟨fun name id other => ?_,
        fun name => (adds.view_eq (fun _ _ => rfl) name).trans (names name),
        .inr ⟨newSource, between, keyId, sourceRuns, named, destinationSide, ?_, ?_⟩⟩
      · rw [adds.bucket?, stores, if_neg fun same => other same.1 same.2]
      · rw [stores, if_pos ⟨rfl, rfl⟩]
      · rw [adds.bucket?, stores, if_pos ⟨rfl, rfl⟩]
    · cases answered

end

/-- Whatever stands in front of the accounts, a setup that fails leaves this behind. One
side leaves the buckets and their names as they were, every key as it was, and one more key
for its bucket exactly if none that the handle names was fit, all look-ups went through and
the creation succeeded. A setup of both sides fails with the source side, or with the
destination side from where a source side that succeeded left off. All buckets but the
source are then as they were, and the source is what its side alone would have stored. -/
theorem failed_setup_residue {τ : Type} {outer : Gateway τ} {backend : τ → Accounts}
    {proper : τ → Prop} (fronts : outer.Fronts Accounts.gateway backend proper) {before : τ}
    (starts : proper before)
    (fresh : ∀ name, (backend before).key? name (backend before).ids.next = none)
    (settings : SetupSettings) (source destination : Handle) (wished : NewRule)
    (sourceKeyId : String) :
    let sourceRun := (setupSource outer settings source destination wished).outcome before
    (∀ error after, sourceRun = (.error error, after) → ∃ exchanges,
      Conducts outer (setupSource outer settings source destination wished)
        (setupSource outer.noting settings source destination wished) before
        (.error error, after) exchanges ∧
      (sourceSide settings source destination wished).Residue exchanges (backend before)
        (backend after)) ∧
    (∀ error after,
      (setupDestination outer settings sourceKeyId destination).outcome before =
        (.error error, after) → ∃ exchanges,
      Conducts outer (setupDestination outer settings sourceKeyId destination)
        (setupDestination outer.noting settings sourceKeyId destination) before
        (.error error, after) exchanges ∧
      (destinationSide settings sourceKeyId destination).Residue exchanges (backend before)
        (backend after)) ∧
    ∀ error after,
      (setupBoth outer settings source destination wished).outcome before =
        (.error error, after) →
      (∀ name id, (source.account = name → source.bucket.id ≠ id) →
        (backend after).bucket? name id = (backend before).bucket? name id) ∧
      (∀ name, ((backend after).account name).bucketIds =
        ((backend before).account name).bucketIds) ∧
      (sourceRun = (.error error, after) ∧
        (backend after).bucket? source.account source.bucket.id =
          (backend before).bucket? source.account source.bucket.id ∨
      ∃ newSource between keyId, sourceRun = (.ok newSource, between) ∧
        newSource.bucket.sourceKeyId = some keyId ∧
        (setupDestination outer settings keyId destination).outcome between =
          (.error error, after) ∧
        (backend between).bucket? source.account source.bucket.id = some newSource.bucket ∧
        (backend after).bucket? source.account source.bucket.id = some newSource.bucket) := by
  refine ⟨?_, ?_, ?_⟩
  · intro error after failed
    exact setupSource_residue fronts starts failed fresh
  · intro error after failed
    exact setupDestination_residue fronts starts failed fresh
  · intro error after failed
    exact setupBoth_residue fronts starts failed

def refusing : Faulty Accounts where
  plan := ⟨[⟨"east", .updateBucket, 0, none, .transport "connection reset"⟩], []⟩
  backend :=
    let ids := ["bucket-1", "bucket-2", "key-1", "key-2"]
    (((Accounts.start ids).createBucket "west" "photos").2.createBucket "east" "backup").2

theorem failed_setup_residue_refusing :
    let source : Handle := ⟨"west", .new "bucket-1" "photos"⟩
    let destination : Handle := ⟨"east", .new "bucket-2" "backup"⟩
    let gateway := Accounts.gateway.withFaults
    gateway.Fronts Accounts.gateway Faulty.backend (fun state => state.plan.withholding = []) ∧
      refusing.plan.withholding = [] ∧
      (∀ name, refusing.backend.key? name refusing.backend.ids.next = none) ∧
      (∃ after key,
        (setupDestination gateway .default "key-0" destination).outcome refusing =
          (.error (.transport "connection reset"), after) ∧
        (after.backend.account "east").keys = [key] ∧ key.bucketId = some "bucket-2") ∧
      ∃ after newSource,
        (setupBoth gateway .default source destination .derived).outcome refusing =
          (.error (.transport "connection reset"), after) ∧
        after.backend.bucket? "east" "bucket-2" = some destination.bucket ∧
        after.backend.bucket? "west" "bucket-1" = some newSource ∧
        newSource.rules = [.new "backup" "bucket-2"] := by
  intro source destination gateway
  have fronts := Gateway.withFaults_fronts Accounts.gateway
  have fresh (name : String) : refusing.backend.key? name refusing.backend.ids.next = none := by
    have keyless : ∀ entry ∈ refusing.backend.byName, entry.2.keys = [] := by decide
    unfold Accounts.key? Accounts.account
    cases found : refusing.backend.byName.lookup name with
    | none => rfl
    | some account =>
        rcases List.lookup_eq_some_iff.1 found with ⟨before, after, listed, _⟩
        have empty : account.keys = [] := keyless (name, account) (listed ▸ by simp)
        simp [Account.key?, empty]
  rcases failed_setup_residue fronts rfl fresh .default source destination .derived "key-0" with
    ⟨_, destinationSide, both⟩
  refine ⟨fronts, rfl, fresh, ?_, ?_⟩
  · have failed : ((setupDestination gateway .default "key-0" destination).outcome refusing).1 =
        .error (.transport "connection reset") := rfl
    rcases destinationSide _ _ (Prod.ext failed rfl) with ⟨exchanges, _, residue⟩
    by_cases renews : (Setup.destinationSide .default "key-0" destination).Renews
        refusing.backend exchanges
    · rcases residue.grown renews with ⟨key, bound, grown⟩
      exact ⟨_, key, Prod.ext failed rfl, grown "east", bound⟩
    · have one : (((setupDestination gateway .default "key-0" destination).outcome
          refusing).2.backend.account "east").keys.length = 1 := rfl
      have none : 0 = 1 := (congrArg List.length (residue.same renews "east")).symm.trans one
      cases none
  · have failed : (match ((setupBoth gateway .default source destination .derived).outcome
        refusing).1 with
      | .error error => some error
      | .ok _ => none) = some (.transport "connection reset") := by
      decide
    have added : ((setupSource gateway .default source destination .derived).outcome
        refusing).1.toOption.isSome = true := by
      decide
    have rules : (((setupBoth gateway .default source destination .derived).outcome
        refusing).2.backend.bucket? "west" "bucket-1").map Bucket.rules =
          some [.new "backup" "bucket-2"] := by
      decide
    rcases result : (setupBoth gateway .default source destination .derived).outcome refusing with
      ⟨error | handles, after⟩
    · rw [result] at failed rules
      cases failed
      rcases both _ after result with
        ⟨others, _, ⟨refused, _⟩ | ⟨newSource, between, _, _, _, _, _, stores⟩⟩
      · rw [refused] at added
        cases added
      · have added := (congrArg (Option.map Bucket.rules) stores).symm.trans rules
        exact ⟨after, newSource.bucket, rfl, others "east" "bucket-2" (by decide), stores,
          Option.some.inj added⟩
    · rw [result] at failed
      cases failed

end Setup

end BucketReplication
