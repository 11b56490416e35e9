import BucketReplication.Proofs.History.DestinationSetup
import BucketReplication.Proofs.History.SourceSetup
import BucketReplication.Proofs.Setup.FitKey

/-! # What a setup of both sides comes to

A setup of both sides succeeds if the one of the source does and the destination is not
out of date: the source side changes no other bucket and always names a key. If the
destination is out of date the source side stays done. -/

namespace BucketReplication

namespace Setup

variable {accounts after : Accounts} {settings : SetupSettings} {source destination handle : Handle}
  {wished : NewRule} {stored : Bucket} {sourceKeyId : String}

/-! ## One side -/

theorem setupSource_stores
    (succeeded : (setupSource Accounts.gateway settings source destination wished).outcome
      accounts = (.ok handle, after)) :
    handle.account = source.account ∧
      (∀ other id, after.bucket? other id =
        if source.account = other ∧ source.bucket.id = id then some handle.bucket
        else accounts.bucket? other id) ∧
      ∃ keyId rule, handle.bucket.sourceKeyId = some keyId ∧
        handle.bucket.rules = source.bucket.rules ++ [rule] ∧
        rule.destinationBucketId = destination.bucket.id := by
  rcases setupSource_ok succeeded with ⟨key, between, chosen, updated, sameAccount⟩
  have sameId := Accounts.updateBucket_id updated
  rcases Accounts.updateBucket_ok updated with ⟨_, record, _, _, follows, _⟩
  refine ⟨sameAccount, fun other id => ?_, key.id,
    ruleToAdd settings source.bucket destination.bucket wished, ?_, ?_, rfl⟩
  · rw [Accounts.bucket?_updateBucket updated, (sourceKey_addsKey chosen).bucket?, sameId]
  · rw [follows]
    rfl
  · rw [follows]
    rfl

theorem setupDestination_stores
    (succeeded : (setupDestination Accounts.gateway settings sourceKeyId destination).outcome
      accounts = (.ok handle, after)) :
    handle.account = destination.account ∧
      (∀ other id, after.bucket? other id =
        if destination.account = other ∧ destination.bucket.id = id then some handle.bucket
        else accounts.bucket? other id) ∧
      ∃ keyId key, KeyMapping.lookup handle.bucket.keyMapping sourceKeyId = some keyId ∧
        after.key? destination.account keyId = some key ∧ key.isFitForDestination = true := by
  rcases setupDestination_ok succeeded with ⟨_, key, between, chosen, updated, sameAccount⟩
  have sameId := Accounts.updateBucket_id updated
  rcases Accounts.updateBucket_ok updated with ⟨_, record, _, _, follows, _⟩
  rcases Option.any_eq_true _ _ |>.1 (destinationKey_choice chosen fun _ => rfl).1 with
    ⟨found, present, fit⟩
  refine ⟨sameAccount, fun other id => ?_, key.id, found, ?_, ?_, fit⟩
  · rw [Accounts.bucket?_updateBucket updated, (destinationKey_addsKey chosen).bucket?, sameId]
  · have mapping : handle.bucket.keyMapping =
        KeyMapping.map destination.bucket.keyMapping sourceKeyId key.id := by
      rw [follows]
      rfl
    rw [mapping, KeyMapping.lookup_map, if_pos rfl]
  · rw [Accounts.key?_updateBucket updated, present]

/-! ## Both sides -/

variable {error : Error}

theorem setupBoth_of_refused
    (refused : (setupSource Accounts.gateway settings source destination wished).outcome
      accounts = (.error error, after)) :
    (setupBoth Accounts.gateway settings source destination wished).outcome accounts =
      (.error error, after) := by
  rw [(setupBoth_yields settings source destination wished accounts).outcome_eq, refused]
  rfl

theorem setupBoth_of_added
    (added : (setupSource Accounts.gateway settings source destination wished).outcome
      accounts = (.ok handle, after)) {keyId : String}
    (names : handle.bucket.sourceKeyId = some keyId) :
    (setupBoth Accounts.gateway settings source destination wished).outcome accounts =
      Outcome.bind
        ((setupDestination Accounts.gateway settings keyId destination).outcome after)
        fun newDestination reached => (.ok (handle, newDestination), reached) := by
  rw [(setupBoth_yields settings source destination wished accounts).outcome_eq, added,
    Outcome.bind, names]

theorem setupBoth_of_overtaken (valid : destination.bucket.IsValid)
    (added : (setupSource Accounts.gateway settings source destination wished).outcome
      accounts = (.ok handle, after))
    (present : after.bucket? destination.account destination.bucket.id = some stored)
    (stale : destination.bucket.revision ≠ stored.revision) :
    ∃ reached,
      (setupBoth Accounts.gateway settings source destination wished).outcome accounts =
        (.error (.revisionMismatch destination.bucket.id destination.bucket.revision
          stored.revision), reached) ∧
      ∀ other id, reached.bucket? other id = after.bucket? other id := by
  rcases setupSource_stores added with ⟨_, _, keyId, _, names, _⟩
  rcases setupDestination_of_found settings keyId valid present with ⟨mappedId, result⟩
  rw [if_pos stale] at result
  rw [setupBoth_of_added added names]
  rcases refused : (setupDestination Accounts.gateway settings keyId destination).outcome
    after with ⟨answer, reached⟩
  rw [refused] at result
  cases result
  exact ⟨reached, rfl, (setupDestination_error refused).bucket?⟩

theorem setupSource_not_internal (valid : source.bucket.IsValid)
    (found : accounts.bucket? source.account source.bucket.id = some stored) (message : String) :
    ((setupSource Accounts.gateway settings source destination wished).outcome accounts).1 ≠
      .error (.internal message) := by
  rcases setupSource_of_found settings destination wished valid found with ⟨keyId, result⟩
  rw [result]
  split
  · nofun
  split
  · nofun
  split
  · nofun
  · nofun

section

variable {newSource newDestination : Handle} {between : Accounts}
  (differ : source.account = destination.account → source.bucket.id ≠ destination.bucket.id)

include differ

theorem setupBoth_stores
    (succeeded : (setupBoth Accounts.gateway settings source destination wished).outcome
      accounts = (.ok (newSource, newDestination), after)) :
    newSource.account = source.account ∧ newDestination.account = destination.account ∧
      after.bucket? source.account source.bucket.id = some newSource.bucket ∧
      after.bucket? destination.account destination.bucket.id = some newDestination.bucket ∧
      ∃ sourceKeyId rule keyId key,
        newSource.bucket.sourceKeyId = some sourceKeyId ∧
        newSource.bucket.rules = source.bucket.rules ++ [rule] ∧
        rule.destinationBucketId = destination.bucket.id ∧
        KeyMapping.lookup newDestination.bucket.keyMapping sourceKeyId = some keyId ∧
        after.key? destination.account keyId = some key ∧ key.isFitForDestination = true := by
  rcases setupBoth_ok succeeded with ⟨sourceKeyId, between, added, names, mapped⟩
  rcases setupSource_stores added with ⟨sourceAccount, sourceStores, _, rule, _, rules, leads⟩
  rcases setupDestination_stores mapped with
    ⟨destinationAccount, destinationStores, keyId, key, looked, present, fit⟩
  refine ⟨sourceAccount, destinationAccount, ?_, ?_, sourceKeyId, rule, keyId, key, names, rules,
    leads, looked, present, fit⟩
  · rw [destinationStores, if_neg fun same => differ same.1.symm same.2.symm, sourceStores,
      if_pos ⟨rfl, rfl⟩]
  · rw [destinationStores, if_pos ⟨rfl, rfl⟩]

variable (valid : destination.bucket.IsValid)
  (found : accounts.bucket? destination.account destination.bucket.id = some stored)
  (added : (setupSource Accounts.gateway settings source destination wished).outcome accounts =
    (.ok newSource, between))

include found added

theorem destination_found_after_source :
    between.bucket? destination.account destination.bucket.id = some stored := by
  rcases setupSource_stores added with ⟨_, stores, _⟩
  rw [stores, if_neg fun same => differ same.1 same.2, found]

include valid

theorem setupBoth_of_current (current : destination.bucket.revision = stored.revision) :
    ∃ newDestination after,
      (setupBoth Accounts.gateway settings source destination wished).outcome accounts =
        (.ok (newSource, newDestination), after) := by
  rcases setupSource_stores added with ⟨_, _, keyId, _, names, _⟩
  rcases setupDestination_of_found settings keyId valid
    (destination_found_after_source differ found added) with ⟨mappedId, result⟩
  rw [if_neg fun stale => stale current] at result
  rw [setupBoth_of_added added names]
  rcases mapped : (setupDestination Accounts.gateway settings keyId destination).outcome
    between with ⟨answer, after⟩
  rw [mapped] at result
  cases result
  exact ⟨_, after, rfl⟩

theorem setupBoth_of_stale (stale : destination.bucket.revision ≠ stored.revision) :
    ∃ after,
      (setupBoth Accounts.gateway settings source destination wished).outcome accounts =
        (.error (.revisionMismatch destination.bucket.id destination.bucket.revision
          stored.revision), after) ∧
      ∀ other id, after.bucket? other id = between.bucket? other id :=
  setupBoth_of_overtaken valid added (destination_found_after_source differ found added) stale

end

end Setup

namespace Session

/-- The result of a setup of both sides, for all handles of two buckets that were handed
out and whatever is asked for. It succeeds exactly if the source side alone would and the
destination is not out of date. Both handles show the stored records then: the source
names a key and has one rule more, which leads to the destination, and the destination
maps that key to one of its own that is fit. For a destination that is out of date the
setup fails, and what the source side stored is kept. -/
theorem setupBoth_outcome {session : Session} (reached : Reached (fun _ _ => True) session)
    (distinct : session.accounts.IdsDistinct) (low : session.chronicle.RevisionsLow)
    {source destination : Handle} (heldSource : source ∈ session.handles)
    (heldDestination : destination ∈ session.handles)
    (differ : source.account = destination.account → source.bucket.id ≠ destination.bucket.id)
    (settings : SetupSettings) (wished : NewRule) :
    let sourceSide :=
      (Setup.setupSource Accounts.gateway settings source destination wished).outcome
        session.accounts
    let outcome :=
      (Setup.setupBoth Accounts.gateway settings source destination wished).outcome
        session.accounts
    ∃ stored,
      session.accounts.bucket? destination.account destination.bucket.id = some stored ∧
      ((∃ handles, outcome.1 = .ok handles) ↔
        (∃ newSource, sourceSide.1 = .ok newSource) ∧
          destination.bucket.revision = stored.revision) ∧
      (∀ newSource newDestination, outcome.1 = .ok (newSource, newDestination) →
        newSource.account = source.account ∧ newDestination.account = destination.account ∧
        outcome.2.bucket? source.account source.bucket.id = some newSource.bucket ∧
        outcome.2.bucket? destination.account destination.bucket.id =
          some newDestination.bucket ∧
        ∃ sourceKeyId rule keyId key,
          newSource.bucket.sourceKeyId = some sourceKeyId ∧
          newSource.bucket.rules = source.bucket.rules ++ [rule] ∧
          rule.destinationBucketId = destination.bucket.id ∧
          KeyMapping.lookup newDestination.bucket.keyMapping sourceKeyId = some keyId ∧
          outcome.2.key? destination.account keyId = some key ∧
          key.fileNameStart.getD "" = "" ∧
          ∀ capability ∈ destinationCapabilities, capability ∈ key.capabilities.items) ∧
      (∀ newSource, sourceSide.1 = .ok newSource →
        destination.bucket.revision ≠ stored.revision →
        outcome.1 = .error (.revisionMismatch destination.bucket.id destination.bucket.revision
          stored.revision) ∧
        outcome.2.bucket? destination.account destination.bucket.id = some stored ∧
        outcome.2.bucket? source.account source.bucket.id = some newSource.bucket ∧
        ∃ rule, newSource.bucket.rules = source.bucket.rules ++ [rule] ∧
          rule.destinationBucketId = destination.bucket.id) ∧
      (∀ error, sourceSide.1 = .error error → outcome.1 = .error error) ∧
      ∀ message, outcome.1 ≠ .error (.internal message) := by
  intro sourceSide outcome
  have orderly := reached.orderly_of_low distinct low
  have sound := reached.sound orderly
  rcases sound.known_handle heldSource with ⟨_, knownSource⟩
  rcases sound.known_handle heldDestination with ⟨_, knownDestination⟩
  rcases sound.coherent.exists_stored knownSource with ⟨storedSource, foundSource⟩
  rcases sound.coherent.exists_stored knownDestination with ⟨stored, found⟩
  have valid := knownDestination.lineage.isValid
  refine ⟨stored, found, ?succeeds, ?stores, ?stale, ?passes, ?internal⟩
  case succeeds =>
    constructor
    · rintro ⟨⟨newSource, newDestination⟩, succeeded⟩
      rcases Setup.setupBoth_ok (Prod.ext succeeded rfl) with ⟨_, between, added, _, _⟩
      refine ⟨⟨newSource, congrArg Prod.fst added⟩, Decidable.byContradiction fun stale => ?_⟩
      rcases Setup.setupBoth_of_stale differ valid found added stale with ⟨after, failed, _⟩
      cases succeeded.symm.trans (congrArg Prod.fst failed)
    · rintro ⟨⟨newSource, added⟩, current⟩
      rcases Setup.setupBoth_of_current differ valid found (Prod.ext added rfl) current with
        ⟨newDestination, after, succeeded⟩
      exact ⟨(newSource, newDestination), congrArg Prod.fst succeeded⟩
  case stores =>
    intro newSource newDestination succeeded
    have stores := Setup.setupBoth_stores differ (Prod.ext succeeded rfl)
    simpa only [ApplicationKey.isFitForDestination_eq, decide_eq_true_iff] using stores
  case stale =>
    intro newSource added stale
    have side : sourceSide = (.ok newSource, sourceSide.2) := Prod.ext added rfl
    rcases Setup.setupSource_stores side with ⟨_, stores, _, rule, _, rules, leads⟩
    rcases Setup.setupBoth_of_stale differ valid found side stale with ⟨after, failed, kept⟩
    rw [show outcome = _ from failed]
    refine ⟨rfl, ?_, ?_, rule, rules, leads⟩
    · rw [kept, Setup.destination_found_after_source differ found side]
    · rw [kept, stores, if_pos ⟨rfl, rfl⟩]
  case passes =>
    intro error refused
    exact congrArg Prod.fst (Setup.setupBoth_of_refused (Prod.ext refused rfl))
  case internal =>
    intro message failed
    rcases Setup.setupBoth_error (Prod.ext failed rfl) with refused | ⟨_, _, _, added, _, _⟩
    · exact Setup.setupSource_not_internal knownSource.lineage.isValid foundSource message
        (congrArg Prod.fst refused)
    · by_cases current : destination.bucket.revision = stored.revision
      · rcases Setup.setupBoth_of_current differ valid found added current with
          ⟨_, _, succeeded⟩
        cases failed.symm.trans (congrArg Prod.fst succeeded)
      · rcases Setup.setupBoth_of_stale differ valid found added current with ⟨_, outdated, _⟩
        cases failed.symm.trans (congrArg Prod.fst outdated)

/-! ## A tour with a destination out of date -/

def overtakenRequests : List Request :=
  [.createBucket "west" "photos", .createBucket "east" "backup",
    .update "east" "bucket-2" 1 ⟨none, none⟩]

def overtakenTour : Session := (start tourIds).run overtakenRequests

theorem setupBoth_outcome_overtakenTour :
    let source : Handle := ⟨"west", .new "bucket-1" "photos"⟩
    let destination : Handle := ⟨"east", .new "bucket-2" "backup"⟩
    Reached (fun _ _ => True) overtakenTour ∧ overtakenTour.accounts.IdsDistinct ∧
      overtakenTour.chronicle.RevisionsLow ∧ source ∈ overtakenTour.handles ∧
      destination ∈ overtakenTour.handles ∧ source.bucket.id ≠ destination.bucket.id ∧
      ∃ added rule after,
        (Setup.setupBoth Accounts.gateway .default source destination .derived).outcome
          overtakenTour.accounts = (.error (.revisionMismatch "bucket-2" 1 2), after) ∧
        after.bucket? "west" "bucket-1" = some added ∧ added.rules = [rule] ∧
        rule.destinationBucketId = "bucket-2" := by
  intro source destination
  have reached : Reached (fun _ _ => True) overtakenTour := .run (.start tourIds) (by decide)
  have distinct : overtakenTour.accounts.IdsDistinct := Accounts.idsDistinct_of_entries (by decide)
  have low : overtakenTour.chronicle.RevisionsLow := by decide
  have heldSource : source ∈ overtakenTour.handles := by decide
  have heldDestination : destination ∈ overtakenTour.handles := by decide
  have differ : source.bucket.id ≠ destination.bucket.id := by decide
  have added : ((Setup.setupSource Accounts.gateway .default source destination
      .derived).outcome overtakenTour.accounts).1.toOption.isSome = true := by
    decide
  rcases setupBoth_outcome reached distinct low heldSource heldDestination (fun _ => differ)
    .default .derived with ⟨stored, found, _, _, stale, _, _⟩
  have second : (overtakenTour.accounts.bucket? "east" "bucket-2").map Bucket.revision =
      some 2 := by
    decide
  have revision : stored.revision = 2 :=
    Option.some.inj ((congrArg (Option.map Bucket.revision) found).symm.trans second)
  rw [revision] at stale
  rcases side : ((Setup.setupSource Accounts.gateway .default source destination
      .derived).outcome overtakenTour.accounts).1 with error | newSource
  · rw [side] at added
    cases added
  · rcases stale newSource side (by decide) with ⟨failed, _, kept, rule, rules, leads⟩
    exact ⟨reached, distinct, low, heldSource, heldDestination, differ, newSource.bucket, rule, _,
      Prod.ext failed rfl, kept, rules, leads⟩

end Session

end BucketReplication
