import BucketReplication.Proofs.History.Session

/-! # Revisions identify contents

The revision of a bucket counts its updates. A record that was handed out earlier
is still the stored one exactly if the revisions agree, so an update that depends
on the revision of a snapshot takes effect exactly if nothing was stored since. -/

namespace BucketReplication

namespace Chronicle.Coherent

variable {chronicle : Chronicle} {handle : Handle} {count : Nat} {stored : Bucket}

theorem revision_toNat (coherent : chronicle.Coherent) (orderly : chronicle.Orderly)
    {account id : String} (found : chronicle.accounts.bucket? account id = some stored) :
    stored.revision.toNat = 1 + (updatesOf chronicle.versions account id).length := by
  rw [(coherent.lineage found).revision_toNat (coherent.length_lt orderly found)]
  exact coherent.length_eq found

theorem revision_eq_add (coherent : chronicle.Coherent) (orderly : chronicle.Orderly)
    (known : chronicle.Known handle count)
    (found : chronicle.accounts.bucket? handle.account handle.bucket.id = some stored) :
    stored.revision.toNat = handle.bucket.revision.toNat +
      (updatesOf (chronicle.versions.drop count) handle.account handle.bucket.id).length := by
  have short := coherent.length_lt orderly found
  have part := versionsOf_continued handle.account handle.bucket.id
    (List.take_prefix count chronicle.versions)
  have counted := known.lineage.length_eq
  have split : updatesOf chronicle.versions handle.account handle.bucket.id =
      updatesOf (chronicle.versions.take count) handle.account handle.bucket.id ++
        updatesOf (chronicle.versions.drop count) handle.account handle.bucket.id := by
    rw [updatesOf, updatesOf, updatesOf, ← List.filter_append, ← versionsOf_append,
      List.take_append_drop]
  rw [coherent.revision_toNat orderly found, split, List.length_append,
    known.lineage.revision_toNat (Nat.lt_of_le_of_lt part.length_le short), counted, updatesOf]
  omega

theorem revision_le (coherent : chronicle.Coherent) (orderly : chronicle.Orderly)
    (known : chronicle.Known handle count)
    (found : chronicle.accounts.bucket? handle.account handle.bucket.id = some stored) :
    handle.bucket.revision ≤ stored.revision := by
  rw [UInt64.le_iff_toNat_le, coherent.revision_eq_add orderly known found]
  exact Nat.le_add_right _ _

theorem eq_stored_iff (coherent : chronicle.Coherent) (orderly : chronicle.Orderly)
    (known : chronicle.Known handle count)
    (found : chronicle.accounts.bucket? handle.account handle.bucket.id = some stored) :
    handle.bucket = stored ↔ handle.bucket.revision = stored.revision := by
  constructor
  · intro same
    rw [same]
  · intro same
    exact (coherent.eq_stored orderly known found same.symm).symm

end Chronicle.Coherent

namespace Session

def UntouchedSince (session : Session) (snapshot : Snapshot) : Prop :=
  updatesOf (session.versions.drop snapshot.count) snapshot.handle.account
    snapshot.handle.bucket.id = []

instance (session : Session) (snapshot : Snapshot) :
    Decidable (session.UntouchedSince snapshot) :=
  inferInstanceAs (Decidable (updatesOf _ _ _ = []))

/-- The stored revision of a bucket counts its updates from 1 on. What was handed
out is never ahead of the stored record and equals it exactly at the same
revision. A valid update that depends on it stores its settings if the bucket was
left alone since, and is refused without a change otherwise. -/
theorem revision_identifies_content {session : Session}
    (reached : Reached (fun _ _ => True) session) (distinct : session.accounts.IdsDistinct)
    (few : UpdatesBelow session.versions (UInt64.size - 1)) :
    (∀ account id stored, session.accounts.bucket? account id = some stored →
      stored.revision.toNat = 1 + (updatesOf session.versions account id).length) ∧
    ∀ snapshot ∈ session.handed,
      ∃ stored,
        session.accounts.bucket? snapshot.handle.account snapshot.handle.bucket.id =
          some stored ∧
        snapshot.handle.bucket.revision ≤ stored.revision ∧
        (snapshot.handle.bucket = stored ↔
          snapshot.handle.bucket.revision = stored.revision) ∧
        ∀ settings : ReplicationSettings, settings.problem? = none →
          let (answer, after) :=
            session.accounts.updateBucket snapshot.handle.account snapshot.handle.bucket.id
              snapshot.handle.bucket.revision settings
          (session.UntouchedSince snapshot ↔
            answer = .ok (snapshot.handle.bucket.updated settings)) ∧
          (session.UntouchedSince snapshot →
            after.bucket? snapshot.handle.account snapshot.handle.bucket.id =
              some (snapshot.handle.bucket.updated settings)) ∧
          (¬ session.UntouchedSince snapshot →
            answer = .error (.revisionMismatch snapshot.handle.bucket.id
                snapshot.handle.bucket.revision stored.revision) ∧
              snapshot.handle.bucket.revision < stored.revision ∧
              after = session.accounts) := by
  have orderly : session.chronicle.Orderly := ⟨distinct, few⟩
  have sound := reached.sound orderly
  refine ⟨fun account id stored found => sound.coherent.revision_toNat orderly found, ?_⟩
  intro snapshot handed
  have known := sound.known snapshot handed
  rcases sound.coherent.exists_stored known with ⟨stored, found⟩
  have present : session.accounts.bucket? snapshot.handle.account snapshot.handle.bucket.id =
    some stored := found
  have counted := sound.coherent.revision_eq_add orderly known found
  have identifies := sound.coherent.eq_stored_iff orderly known found
  refine ⟨stored, found, ?_, identifies, fun settings valid => ?_⟩
  · rw [UInt64.le_iff_toNat_le, counted]
    exact Nat.le_add_right _ _
  · -- The stored revision is ahead by the number of later updates.
    have same : session.UntouchedSince snapshot ↔
        stored.revision = snapshot.handle.bucket.revision := by
      rw [← UInt64.toNat_inj, counted, UntouchedSince, ← List.length_eq_zero_iff]
      exact ⟨fun none => by rw [versions] at none; omega, fun same => by rw [versions]; omega⟩
    by_cases current : stored.revision = snapshot.handle.bucket.revision
    · have shown : stored = snapshot.handle.bucket := (identifies.2 current.symm).symm
      have updated := Accounts.updateBucket_of_current valid present
      rw [shown] at updated
      have stores := Chronicle.current_updateBucket updated
      rw [updated]
      exact ⟨⟨fun _ => rfl, fun _ => same.2 current⟩, fun _ => stores,
        fun touched => absurd (same.2 current) touched⟩
    · have refused := Accounts.updateBucket_of_stale valid present current
      have notSame : stored.revision.toNat ≠ snapshot.handle.bucket.revision.toNat :=
        fun equal => current (UInt64.toNat_inj.1 equal)
      have later : snapshot.handle.bucket.revision < stored.revision := by
        rw [UInt64.lt_iff_toNat_lt]
        omega
      rw [refused]
      exact ⟨⟨fun untouched => absurd (same.1 untouched) current, nofun⟩,
        fun untouched => absurd (same.1 untouched) current, fun _ => ⟨rfl, later, rfl⟩⟩

theorem revision_identifies_content_tour :
    Reached (fun _ _ => True) tour ∧ tour.accounts.IdsDistinct ∧
      UpdatesBelow tour.versions (UInt64.size - 1) ∧
      ∃ stored, tour.accounts.bucket? "west" "bucket-1" = some stored ∧
        1 < stored.revision ∧
        (tour.accounts.updateBucket "west" "bucket-1" 1 ⟨none, none⟩).1 =
          .error (.revisionMismatch "bucket-1" 1 stored.revision) := by
  have reached : Reached (fun _ _ => True) tour := .run (.start tourIds) (by decide)
  rcases (revision_identifies_content reached tour_distinct tour_few).2
    ⟨⟨"west", .new "bucket-1" "photos"⟩, 1⟩ (by decide) with ⟨stored, found, _, _, updates⟩
  have refused := (updates ⟨none, none⟩ rfl).2.2 (by decide)
  exact ⟨reached, tour_distinct, tour_few, stored, found, refused.2.1, refused.1⟩

end Session

end BucketReplication
