import BucketReplication.Proofs.History.BothSetup
import BucketReplication.Proofs.History.Linkage
import BucketReplication.Proofs.History.Revision

/-! # Setting up a bucket to replicate into itself

The two sides of a setup may be handles of one bucket. The source side then raises the
revision of the bucket above that of every handle that was handed out before, so the
destination side always comes too late and the rule is all that is stored. -/

namespace BucketReplication

namespace Chronicle

variable {chronicle : Chronicle} {settings : SetupSettings} {source destination newSource : Handle}
  {wished : NewRule} {between : Accounts} {count : Nat}

theorem setupSource_stores_next (coherent : chronicle.Coherent) (orderly : chronicle.Orderly)
    (known : chronicle.Known source count)
    (added : (Setup.setupSource Accounts.gateway settings source destination wished).outcome
      chronicle.accounts = (.ok newSource, between)) :
    chronicle.accounts.bucket? source.account source.bucket.id = some source.bucket ∧
      between.bucket? source.account source.bucket.id = some newSource.bucket ∧
      ∃ keyId, newSource = ⟨source.account, source.bucket.updated
        (Setup.settingsWithRule source.bucket keyId
          (Setup.ruleToAdd settings source.bucket destination.bucket wished))⟩ := by
  rcases Setup.setupSource_ok added with ⟨key, chosen, choice, updated, sameAccount⟩
  have adds := Setup.sourceKey_addsKey choice
  rcases shown_of_updated coherent orderly known adds updated with ⟨found, _, follows⟩
  have stores := (Setup.setupSource_stores added).2.1 source.account source.bucket.id
  rw [if_pos ⟨rfl, rfl⟩] at stores
  refine ⟨found, stores, key.id, ?_⟩
  rw [← sameAccount, ← follows]

theorem Known.overtaken {handle : Handle} {stored : Bucket} (known : chronicle.Known handle count)
    (coherent : chronicle.Coherent) (orderly : chronicle.Orderly) (low : chronicle.RevisionsLow)
    (found : chronicle.accounts.bucket? handle.account handle.bucket.id = some stored) :
    handle.bucket.revision < stored.revision + 1 ∧
      (stored.revision + 1).toNat = stored.revision.toNat + 1 := by
  have current : chronicle.Current ⟨handle.account, stored⟩ := by
    rw [Current, Accounts.bucket?_id found]
    exact found
  have room := (coherent.known current).revision_lt low
  have behind := coherent.revision_le orderly known found
  have raised : (stored.revision + 1).toNat = stored.revision.toNat + 1 := by
    rw [UInt64.toNat_add, UInt64.toNat_one]
    exact Nat.mod_eq_of_lt (Nat.add_lt_of_lt_sub room)
  rw [UInt64.le_iff_toNat_le] at behind
  rw [UInt64.lt_iff_toNat_lt, raised]
  exact ⟨Nat.lt_succ_of_le behind, rfl⟩

end Chronicle

namespace Session

/-- A setup of both sides by two handles of one bucket, whatever their revisions, never
succeeds. Where the source side fails, that failure is all that happens. Where it is
stored, the destination side is refused because the bucket is one revision ahead of the
source handle, and the bucket keeps what the source side stored: one rule more, and the
same key mapping. -/
theorem setupBoth_onto_itself {session : Session} (reached : Reached (fun _ _ => True) session)
    (distinct : session.accounts.IdsDistinct) (low : session.chronicle.RevisionsLow)
    {source destination : Handle} (heldSource : source ∈ session.handles)
    (heldDestination : destination ∈ session.handles)
    (sameAccount : destination.account = source.account)
    (sameId : destination.bucket.id = source.bucket.id)
    (settings : SetupSettings) (wished : NewRule) :
    let rule := Setup.ruleToAdd settings source.bucket destination.bucket wished
    let sourceSide :=
      (Setup.setupSource Accounts.gateway settings source destination wished).outcome
        session.accounts
    let outcome :=
      (Setup.setupBoth Accounts.gateway settings source destination wished).outcome
        session.accounts
    (∀ handles, outcome.1 ≠ .ok handles) ∧
      (∀ error, sourceSide.1 = .error error → outcome = (.error error, sourceSide.2)) ∧
      ∀ newSource, sourceSide.1 = .ok newSource →
        outcome.1 = .error (.revisionMismatch source.bucket.id destination.bucket.revision
          (source.bucket.revision + 1)) ∧
        destination.bucket.revision < source.bucket.revision + 1 ∧
        (source.bucket.revision + 1).toNat = source.bucket.revision.toNat + 1 ∧
        session.accounts.bucket? source.account source.bucket.id = some source.bucket ∧
        (∀ account id, outcome.2.bucket? account id =
          if source.account = account ∧ source.bucket.id = id then some newSource.bucket
          else session.accounts.bucket? account id) ∧
        ∃ keyId, newSource.bucket =
          { id := source.bucket.id
            name := source.bucket.name
            revision := source.bucket.revision + 1
            replication := some
              { source := some ⟨some keyId, source.bucket.rules ++ [rule]⟩
                destination := source.bucket.destinationSettings } } := by
  intro rule sourceSide outcome
  have orderly := reached.orderly_of_low distinct low
  have sound := reached.sound orderly
  rcases sound.known_handle heldSource with ⟨_, knownSource⟩
  rcases sound.known_handle heldDestination with ⟨_, knownDestination⟩
  have refused (error : Error) (failed : sourceSide.1 = .error error) :
      outcome = (.error error, sourceSide.2) :=
    Setup.setupBoth_of_refused (Prod.ext failed rfl)
  have stopped (newSource : Handle) (added : sourceSide.1 = .ok newSource) :
      outcome.1 = .error (.revisionMismatch source.bucket.id destination.bucket.revision
          (source.bucket.revision + 1)) ∧
        destination.bucket.revision < source.bucket.revision + 1 ∧
        (source.bucket.revision + 1).toNat = source.bucket.revision.toNat + 1 ∧
        session.accounts.bucket? source.account source.bucket.id = some source.bucket ∧
        (∀ account id, outcome.2.bucket? account id =
          if source.account = account ∧ source.bucket.id = id then some newSource.bucket
          else session.accounts.bucket? account id) ∧
        ∃ keyId, newSource.bucket = source.bucket.updated
          (Setup.settingsWithRule source.bucket keyId rule) := by
    have side : sourceSide = (.ok newSource, sourceSide.2) := Prod.ext added rfl
    rcases Chronicle.setupSource_stores_next sound.coherent orderly knownSource side with
      ⟨found, stores, keyId, rfl⟩
    have foundToo := found
    rw [← sameAccount, ← sameId] at foundToo stores
    rcases knownDestination.overtaken sound.coherent orderly low foundToo with ⟨behind, raised⟩
    have stale : destination.bucket.revision ≠ source.bucket.revision + 1 := by
      intro same
      rw [same] at behind
      exact UInt64.lt_irrefl _ behind
    rcases Setup.setupBoth_of_overtaken knownDestination.lineage.isValid side stores stale with
      ⟨after, failed, kept⟩
    rw [show outcome = _ from failed, sameId]
    refine ⟨rfl, behind, raised, found, fun account id => ?_, keyId, rfl⟩
    rw [kept, (Setup.setupSource_stores side).2.1]
  refine ⟨?_, refused, stopped⟩
  intro handles succeeded
  rcases side : sourceSide.1 with error | newSource
  · cases succeeded.symm.trans (congrArg Prod.fst (refused error side))
  · cases succeeded.symm.trans (stopped newSource side).1

theorem setupBoth_onto_itself_overtakenTour :
    let source : Handle := ⟨"east", (Bucket.new "bucket-2" "backup").updated ⟨none, none⟩⟩
    let destination : Handle := ⟨"east", .new "bucket-2" "backup"⟩
    Reached (fun _ _ => True) overtakenTour ∧ overtakenTour.accounts.IdsDistinct ∧
      overtakenTour.chronicle.RevisionsLow ∧ source ∈ overtakenTour.handles ∧
      destination ∈ overtakenTour.handles ∧ destination.account = source.account ∧
      destination.bucket.id = source.bucket.id ∧
      ∃ keyId after,
        (Setup.setupBoth Accounts.gateway .default source destination .derived).outcome
          overtakenTour.accounts = (.error (.revisionMismatch "bucket-2" 1 3), after) ∧
        (after.bucket? "east" "bucket-2").bind Bucket.sourceSettings =
          some ⟨some keyId, [.new "backup" "bucket-2"]⟩ := by
  intro source destination
  have reached : Reached (fun _ _ => True) overtakenTour := .run (.start tourIds) (by decide)
  have distinct : overtakenTour.accounts.IdsDistinct := Accounts.idsDistinct_of_entries (by decide)
  have low : overtakenTour.chronicle.RevisionsLow := by decide
  have heldSource : source ∈ overtakenTour.handles := by decide
  have heldDestination : destination ∈ overtakenTour.handles := by decide
  have added : ((Setup.setupSource Accounts.gateway .default source destination
      .derived).outcome overtakenTour.accounts).1.toOption.isSome = true := by
    decide
  rcases setupBoth_onto_itself reached distinct low heldSource heldDestination rfl rfl .default
    .derived with ⟨_, _, stopped⟩
  rcases side : ((Setup.setupSource Accounts.gateway .default source destination
      .derived).outcome overtakenTour.accounts).1 with error | newSource
  · rw [side] at added
    cases added
  · rcases stopped newSource side with ⟨failed, _, _, _, stores, keyId, follows⟩
    refine ⟨reached, distinct, low, heldSource, heldDestination, rfl, rfl, keyId, _,
      Prod.ext failed rfl, ?_⟩
    have stored := stores "east" "bucket-2"
    rw [if_pos ⟨rfl, rfl⟩] at stored
    rw [stored, follows]
    rfl

end Session

end BucketReplication
