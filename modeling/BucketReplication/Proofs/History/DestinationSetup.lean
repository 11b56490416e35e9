import BucketReplication.Proofs.History.Session
import BucketReplication.Proofs.Setup.DestinationTrace

/-! # What a setup of a destination comes to

A setup of a destination looks up the mapped keys, goes on with the last fit one or
with a new one, and can fail for the revision of its snapshot only: the bucket of a
handle exists, so a key can always be created, and mapping a key makes no valid
settings invalid. -/

namespace BucketReplication

theorem ApplicationKey.isFitForDestination_eq :
    isFitForDestination = fun key : ApplicationKey =>
      decide (key.fileNameStart.getD "" = "" ∧
        ∀ capability ∈ destinationCapabilities, capability ∈ key.capabilities.items) := by
  funext key
  have unrestricted : key.isNarrowed = false ↔ key.fileNameStart.getD "" = "" := by
    unfold isNarrowed
    cases key.fileNameStart with
    | none => simp
    | some start => simp
  rw [Bool.eq_iff_iff, decide_eq_true_iff, isFitForDestination, Bool.and_eq_true,
    Bool.not_eq_true', unrestricted, hasCapabilities, CapabilitySet.holdsAll, List.all_eq_true,
    and_comm]
  simp only [List.contains_iff_mem]

namespace Setup

variable {accounts : Accounts} {destination : Handle} {stored : Bucket}

theorem destinationKey_of_found (settings : SetupSettings) (mapping : KeyMapping)
    (found : accounts.bucket? destination.account destination.bucket.id = some stored) :
    let keyIds := KeyMapping.destinationKeyIds mapping
    let fit := fitKeyIds accounts destination.account keyIds
    ∃ key between,
      (destinationKey Accounts.gateway settings destination mapping).outcome accounts =
        (.ok (absentKeyIds accounts destination.account keyIds, key), between) ∧
      (∀ other id, between.bucket? other id = accounts.bucket? other id) ∧
      ((fit.getLast? = some key.id ∧ between = accounts) ∨
        (fit = [] ∧
          accounts.createKey destination.account
            (destinationKeyRequest settings destination.bucket) = (.ok key, between))) := by
  intro keyIds fit
  have equation := (destinationKey_yields settings destination mapping accounts).outcome_eq
  have ids : (fitDestinationKeys accounts destination.account keyIds).map ApplicationKey.id =
    fit := map_id_fitDestinationKeys accounts destination.account keyIds
  dsimp only at equation
  cases last : (fitDestinationKeys accounts destination.account keyIds).getLast? with
  | some key =>
      rw [last] at equation
      refine ⟨key, accounts, equation, fun _ _ => rfl, .inl ⟨?_, rfl⟩⟩
      rw [← ids, List.getLast?_map, last]
      rfl
  | none =>
      rw [last] at equation
      rcases created : accounts.createKey destination.account
          (destinationKeyRequest settings destination.bucket) with ⟨error | key, between⟩
      · rcases (Accounts.createKey_error created).2 with ⟨bucketId, bound, missing⟩
        cases bound
        rw [found] at missing
        cases missing
      · rw [created] at equation
        refine ⟨key, between, equation, Accounts.bucket?_createKey created, .inr ⟨?_, rfl⟩⟩
        rw [← ids, List.getLast?_eq_none_iff.1 last]
        rfl

theorem update_settingsWithMapping (sourceKeyId keyId : String)
    (valid : destination.bucket.IsValid)
    (found : accounts.bucket? destination.account destination.bucket.id = some stored) :
    ((destination.update Accounts.gateway destination.bucket.revision
      (settingsWithMapping destination.bucket sourceKeyId keyId)).outcome accounts).1 =
      if destination.bucket.revision ≠ stored.revision then
        .error (.revisionMismatch destination.bucket.id destination.bucket.revision
          stored.revision)
      else
        .ok ⟨destination.account,
          stored.updated (settingsWithMapping destination.bucket sourceKeyId keyId)⟩ := by
  have problem := problem?_settingsWithMapping destination.bucket sourceKeyId keyId valid
  rw [(Handle.update_yields destination _ _ accounts).outcome_eq]
  by_cases current : stored.revision = destination.bucket.revision
  · rw [← current, Accounts.updateBucket_of_current problem found,
      if_neg (fun stale => stale rfl)]
    rfl
  · rw [Accounts.updateBucket_of_stale problem found current, if_pos (Ne.symm current)]
    rfl

theorem setupDestination_of_found (settings : SetupSettings) (sourceKeyId : String)
    (valid : destination.bucket.IsValid)
    (found : accounts.bucket? destination.account destination.bucket.id = some stored) :
    ∃ keyId,
      ((setupDestination Accounts.gateway settings sourceKeyId destination).outcome accounts).1 =
        if destination.bucket.revision ≠ stored.revision then
          .error (.revisionMismatch destination.bucket.id destination.bucket.revision
            stored.revision)
        else
          .ok ⟨destination.account,
            stored.updated (settingsWithMapping destination.bucket sourceKeyId keyId)⟩ := by
  rcases destinationKey_of_found settings destination.bucket.keyMapping found with
    ⟨key, between, chosen, kept, _⟩
  refine ⟨key.id, ?_⟩
  rw [setupDestination_of_chosen chosen]
  exact update_settingsWithMapping sourceKeyId key.id valid ((kept _ _).trans found)

end Setup

theorem Chronicle.Known.update_ok {chronicle : Chronicle} {handle next : Handle} {count : Nat}
    {stores : ReplicationSettings} {accounts after : Accounts}
    (known : chronicle.Known handle count) (low : chronicle.RevisionsLow)
    (updated : (handle.update Accounts.gateway handle.bucket.revision stores).outcome accounts =
      (.ok next, after)) :
    after.bucket? handle.account handle.bucket.id = some next.bucket ∧
      next.bucket.revision.toNat = handle.bucket.revision.toNat + 1 := by
  have stored := (Handle.update_ok updated).1
  have present := current_updateBucket stored
  rw [Accounts.updateBucket_id stored] at present
  refine ⟨present, ?_⟩
  have room := known.revision_lt low
  rcases Accounts.updateBucket_ok stored with ⟨_, before, _, sameRevision, follows, _⟩
  have raised : next.bucket.revision = handle.bucket.revision + 1 := by
    rw [follows, ← sameRevision]
    rfl
  rw [raised, UInt64.toNat_add, UInt64.toNat_one]
  exact Nat.mod_eq_of_lt (Nat.add_lt_of_lt_sub room)

namespace Session

/-- The result of a setup of a destination, for every handle that was handed out and
every source key, with the calls and reports on its way. Each mapped key is looked up
once, in the order of first occurrence, and those that do not exist are reported
together. The last one that exists and is fit is chosen, or else one key is created.
The setup fails only for a snapshot that is out of date; otherwise the bucket maps
the source key to the chosen one, at the next revision, and is the same as a
source. -/
theorem setupDestination_outcome {session : Session}
    (reached : Reached (fun _ _ => True) session) {destination : Handle}
    (held : destination ∈ session.handles) (sourceKeyId : String) (settings : SetupSettings)
    (distinct :
      (session.step (.setupDestination settings sourceKeyId destination)).accounts.IdsDistinct)
    (low : session.chronicle.RevisionsLow) :
    let bucket := destination.bucket
    let keyIds := (bucket.keyMapping.items.map Prod.snd).eraseDups
    let find := session.accounts.key? destination.account
    let deleted := keyIds.filter fun keyId => (find keyId).isNone
    let fit := keyIds.filter fun keyId => (find keyId).any fun key =>
      decide (key.fileNameStart.getD "" = "" ∧
        ∀ capability ∈ destinationCapabilities, capability ∈ key.capabilities.items)
    let name := settings.destinationKeyName bucket.name
    let outcome :=
      (Setup.setupDestination Accounts.gateway settings sourceKeyId destination).outcome
        session.accounts
    ∃ stored keyId trace,
      session.accounts.bucket? destination.account bucket.id = some stored ∧
      (Setup.setupDestination Accounts.gateway.noting settings sourceKeyId destination).traced
        session.accounts = (outcome, trace) ∧
      let replication : ReplicationSettings :=
        { source := bucket.sourceSettings
          destination := some ⟨KeyMapping.map bucket.keyMapping sourceKeyId keyId⟩ }
      trace.calls =
        keyIds.map (.getKey destination.account) ++
          (if fit = [] then
            [.createKey destination.account
              ⟨name, destinationCapabilities, some bucket.id, none⟩]
          else []) ++
          [.updateBucket destination.account bucket.id bucket.revision replication] ∧
      trace.events.filterMap Event.deletion? =
        (if deleted = [] then [] else [(bucket.name, deleted)]) ∧
      (match fit.getLast? with
      | some last =>
        keyId = last ∧
          ∀ other, (outcome.2.account other).keys = (session.accounts.account other).keys
      | none =>
        find keyId = none ∧
          ∀ other, (outcome.2.account other).keys =
            if destination.account = other then
              (session.accounts.account other).keys ++
                [⟨keyId, name, some bucket.id, none, .ofList destinationCapabilities⟩]
            else (session.accounts.account other).keys) ∧
      (outcome.1 =
        if bucket.revision ≠ stored.revision then
          .error (.revisionMismatch bucket.id bucket.revision stored.revision)
        else .ok
          { account := destination.account
            bucket :=
              { id := bucket.id
                name := bucket.name
                revision := bucket.revision + 1
                replication := some replication } }) ∧
      (∀ handle, outcome.1 = .ok handle →
        outcome.2.bucket? destination.account bucket.id = some handle.bucket ∧
        handle.bucket.revision.toNat = bucket.revision.toNat + 1) ∧
      ∀ error, outcome.1 = .error error →
        ∀ other id, outcome.2.bucket? other id = session.accounts.bucket? other id := by
  intro bucket keyIds find deleted fit name outcome
  have distinctAfter : outcome.2.IdsDistinct := by
    rw [← session.chronicle.accounts_recorded]
    exact distinct
  have orderly := reached.orderly_of_low
    ((step_continued session _).ids.idsDistinct distinct) low
  have sound := reached.sound orderly
  rcases sound.known_handle held with ⟨count, known⟩
  rcases sound.coherent.exists_stored known with ⟨stored, found⟩
  replace found : session.accounts.bucket? destination.account bucket.id = some stored := found
  have identifies := sound.coherent.eq_stored orderly known found
  rcases Setup.destinationKey_of_found settings bucket.keyMapping found with
    ⟨key, between, chosen, kept, choice⟩
  have fitIds : Setup.fitKeyIds session.accounts destination.account
      (KeyMapping.destinationKeyIds bucket.keyMapping) = fit := by
    rw [Setup.fitKeyIds, ApplicationKey.isFitForDestination_eq]
    rfl
  have updates : outcome = (destination.update Accounts.gateway bucket.revision
      (Setup.settingsWithMapping bucket sourceKeyId key.id)).outcome between :=
    Setup.setupDestination_of_chosen chosen
  have leaves := Setup.setupDestination_leaves sourceKeyId chosen
  have result := Setup.update_settingsWithMapping sourceKeyId key.id known.lineage.isValid
    ((kept _ _).trans found)
  have sameKeys (other : String) :
      (outcome.2.account other).keys = (between.account other).keys :=
    Handle.update_keys updates.symm other
  refine ⟨stored, key.id, _, found, leaves.traced_eq, ?calls, ?reports, ?keys, ?result, ?stores,
    ?fails⟩
  case calls =>
    have calls := Setup.calls_setupTrace session.accounts between settings sourceKeyId destination
      (Setup.absentKeyIds session.accounts destination.account keyIds) key
    dsimp only at calls
    rw [← fitIds]
    exact calls
  case reports =>
    exact Setup.deletions_setupTrace session.accounts between settings sourceKeyId destination
      (Setup.absentKeyIds session.accounts destination.account keyIds) key
  case keys =>
    rw [fitIds] at choice
    rcases choice with ⟨last, rfl⟩ | ⟨none, created⟩
    · rw [last]
      exact ⟨rfl, sameKeys⟩
    · have grows : between.Grows outcome.2 := Handle.update_grows updates.symm
      have fresh := Accounts.createKey_fresh created sound.coherent.listed
        (grows.idsDistinct distinctAfter)
      rw [none]
      refine ⟨fresh, fun other => ?_⟩
      rw [sameKeys, Accounts.keys_createKey created fresh, (Accounts.createKey_ok created).1]
      rfl
  case result =>
    rw [updates, result]
    by_cases stale : bucket.revision ≠ stored.revision
    · rw [if_pos stale, if_pos stale]
    · -- At the stored revision the snapshot is the stored record, id and name included.
      have same := identifies (Decidable.not_not.1 stale).symm
      subst same
      rfl
  case stores =>
    intro handle succeeded
    exact known.update_ok low (updates.symm.trans (Prod.ext succeeded rfl))
  case fails =>
    intro error failed other id
    have same : outcome = (.error error, outcome.2) := Prod.ext failed rfl
    exact (Setup.setupDestination_error same).bucket? other id

/-! ## A tour of mapped keys

A destination maps five source keys to four of its own, of which one was deleted and
one reaches only some of the files. -/

def writerRequest (fileNameStart : Option String) : KeyRequest :=
  ⟨"writer", destinationCapabilities, some "bucket-1", fileNameStart⟩

def mappedSettings : ReplicationSettings :=
  ⟨none, some ⟨.ofList [("a", "key-1"), ("b", "gone"), ("c", "key-2"), ("d", "key-3"),
    ("e", "key-1")]⟩⟩

def mappedRequests : List Request :=
  [.createBucket "east" "backup", .createKey "east" (writerRequest none),
    .createKey "east" (writerRequest none), .createKey "east" (writerRequest (some "logs/")),
    .update "east" "bucket-1" 1 mappedSettings]

def mappedTour : Session := (start ["bucket-1", "key-1", "key-2", "key-3"]).run mappedRequests

def mappedHandle : Handle := ⟨"east", (Bucket.new "bucket-1" "backup").updated mappedSettings⟩

theorem mappedTour_reached : Reached (fun _ _ => True) mappedTour :=
  .run (.start _) (by decide)

theorem mappedTour_low : mappedTour.chronicle.RevisionsLow := by decide

theorem mappedHandle_held : mappedHandle ∈ mappedTour.handles := by decide

theorem mappedTour_distinct :
    (mappedTour.step (.setupDestination .default "a" mappedHandle)).accounts.IdsDistinct :=
  Accounts.idsDistinct_of_entries (by decide)

/-- The key of the third entry is the last one that exists and is fit. The deleted key
is reported, and no key is created. -/
theorem setupDestination_outcome_mappedTour :
    Reached (fun _ _ => True) mappedTour ∧ mappedHandle ∈ mappedTour.handles ∧
      (mappedTour.step (.setupDestination .default "a" mappedHandle)).accounts.IdsDistinct ∧
      mappedTour.chronicle.RevisionsLow ∧
      ∃ outcome trace,
        (Setup.setupDestination Accounts.gateway.noting .default "a" mappedHandle).traced
          mappedTour.accounts = (outcome, trace) ∧
        trace.calls = [.getKey "east" "key-1", .getKey "east" "gone",
          .getKey "east" "key-2", .getKey "east" "key-3",
          .updateBucket "east" "bucket-1" 2
            (Setup.settingsWithMapping mappedHandle.bucket "a" "key-2")] ∧
        trace.events.filterMap Event.deletion? = [("backup", ["gone"])] ∧
        (outcome.2.account "east").keys = (mappedTour.accounts.account "east").keys ∧
        outcome.1 = .ok ⟨"east", mappedHandle.bucket.updated
          (Setup.settingsWithMapping mappedHandle.bucket "a" "key-2")⟩ := by
  have mapped : (mappedHandle.bucket.keyMapping.items.map Prod.snd).eraseDups =
      ["key-1", "gone", "key-2", "key-3"] := by
    decide
  have gone : (["key-1", "gone", "key-2", "key-3"].filter fun keyId =>
      (mappedTour.accounts.key? mappedHandle.account keyId).isNone) = ["gone"] := by
    decide
  have fit : (["key-1", "gone", "key-2", "key-3"].filter fun keyId =>
      (mappedTour.accounts.key? mappedHandle.account keyId).any fun key =>
        decide (key.fileNameStart.getD "" = "" ∧
          ∀ capability ∈ destinationCapabilities, capability ∈ key.capabilities.items)) =
      ["key-1", "key-2"] := by
    decide
  have second : (mappedTour.accounts.bucket? "east" "bucket-1").map Bucket.revision = some 2 := by
    decide
  rcases setupDestination_outcome mappedTour_reached mappedHandle_held "a" .default
    mappedTour_distinct mappedTour_low with
    ⟨stored, keyId, trace, found, traced, calls, reports, keys, result, _, _⟩
  have revision : stored.revision = 2 :=
    Option.some.inj ((congrArg (Option.map Bucket.revision) found).symm.trans second)
  rw [mapped] at calls reports keys
  rw [gone] at reports
  rw [fit] at calls keys
  rcases keys with ⟨rfl, keys⟩
  rw [revision] at result
  refine ⟨mappedTour_reached, mappedHandle_held, mappedTour_distinct, mappedTour_low, _, trace,
    traced, calls, reports, keys "east", result⟩

end Session

end BucketReplication
