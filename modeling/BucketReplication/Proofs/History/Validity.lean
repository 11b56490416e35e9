import BucketReplication.Proofs.History.Session
import BucketReplication.Proofs.Replication.Validity

/-! # Stored settings are valid

Every way into the store leads through one check, so whatever clients ask for, and
by whatever handles, the settings of all buckets stay valid, and so are all those
that are handed out. Nothing is needed of ids or revisions here. -/

namespace BucketReplication

namespace Accounts

def AllValid (accounts : Accounts) : Prop :=
  ∀ account id bucket, accounts.bucket? account id = some bucket → bucket.IsValid

variable {accounts after : Accounts} {account : String} {bucket : Bucket}

theorem allValid_start (ids : List String) : AllValid (start ids) := by
  intro account id bucket found
  cases found

theorem AllValid.placed (valid : accounts.AllValid) (new : bucket.IsValid)
    (puts : ∀ other id, after.bucket? other id =
      if account = other ∧ bucket.id = id then some bucket else accounts.bucket? other id) :
    after.AllValid := by
  intro other id stored found
  rw [puts] at found
  split at found
  · cases found
    exact new
  · exact valid other id stored found

theorem AllValid.kept (valid : accounts.AllValid)
    (same : ∀ other id, after.bucket? other id = accounts.bucket? other id) :
    after.AllValid := by
  intro other id stored found
  rw [same] at found
  exact valid other id stored found

end Accounts

namespace Chronicle

variable {used : Handle → Prop} {before after : Chronicle}

theorem Write.allValid (write : Write used before after) (valid : before.accounts.AllValid) :
    after.accounts.AllValid := by
  cases write with
  | createBucket created =>
      refine valid.placed ?_ (Accounts.bucket?_createBucket created)
      rw [(Accounts.createBucket_ok created).1]
      exact Bucket.isValid_new _ _
  | createKey created => exact valid.kept (Accounts.bucket?_createKey created)
  | deleteKey account keyId =>
      exact valid.kept (Accounts.bucket?_deleteKey before.accounts account keyId)
  | update intent updated =>
      refine valid.placed ?_ (Accounts.bucket?_updateBucket updated)
      rcases Accounts.updateBucket_ok updated with ⟨fine, stored, _, _, rfl, _⟩
      exact Bucket.isValid_updated fine

theorem writes_allValid (writes : Writes used before after)
    (valid : before.accounts.AllValid) : after.accounts.AllValid := by
  induction writes with
  | refl => exact valid
  | tail earlier write induction => exact write.allValid induction

end Chronicle

namespace Session

structure Valid (session : Session) : Prop where
  stored : session.accounts.AllValid
  handed : ∀ handle ∈ session.handles, handle.bucket.IsValid

theorem valid_start (ids : List String) : Valid (start ids) :=
  ⟨Accounts.allValid_start ids, nofun⟩

theorem Valid.step {session : Session} (valid : session.Valid) (request : Request) :
    (session.step request).Valid := by
  have moves := session.chronicle.carryOut_moves request
  constructor
  · exact Chronicle.writes_allValid moves.writes valid.stored
  · intro handle held
    rw [handles, Session.step, List.map_append] at held
    rcases List.mem_append.1 held with before | new
    · exact valid.handed handle before
    · -- What is handed out was stored at some moment on the way.
      rcases List.mem_map.1 new with ⟨snapshot, answered, rfl⟩
      rcases moves.current snapshot answered with ⟨moment, reached, _, current, _⟩
      exact Chronicle.writes_allValid reached valid.stored _ _ _ current

theorem Valid.run {session : Session} (valid : session.Valid) (requests : List Request) :
    (session.run requests).Valid := by
  induction requests generalizing session with
  | nil => exact valid
  | cons request rest induction => exact induction (valid.step request)

/-- After any requests whatever, by any handles, the rules of every bucket have
different names and are well-formed, and all that was handed out passes the check. -/
theorem run_keeps_settings_valid (ids : List String) (requests : List Request) :
    let session := (start ids).run requests
    (∀ account id bucket settings, session.accounts.bucket? account id = some bucket →
      bucket.replication = some settings →
      (settings.rules.map Rule.name).Nodup ∧ ∀ rule ∈ settings.rules, rule.WellFormed) ∧
    ∀ handle ∈ session.handles, ∀ settings,
      handle.bucket.replication = some settings → settings.problem? = none := by
  intro session
  have valid : session.Valid := (valid_start ids).run requests
  constructor
  · intro account id bucket settings found stored
    have fine := valid.stored account id bucket found settings stored
    exact settings.problem?_eq_none_iff.1 fine
  · exact valid.handed

end Session

end BucketReplication
