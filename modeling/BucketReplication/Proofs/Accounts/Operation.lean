import BucketReplication.Proofs.Accounts.Lookup

/-! # Operations on accounts

What an operation on one of several accounts did if it succeeded, and that it
did nothing if it failed. An operation that succeeded changed the account that
it names and no other one. -/

namespace BucketReplication

def KeyRequest.granted (request : KeyRequest) (id : String) : ApplicationKey :=
  ⟨id, request.name, request.bucketId, request.fileNameStart,
    CapabilitySet.ofList request.capabilities⟩

namespace Accounts

def bucket? (accounts : Accounts) (name bucketId : String) : Option Bucket :=
  (accounts.account name).bucket? bucketId

def key? (accounts : Accounts) (name keyId : String) : Option ApplicationKey :=
  (accounts.account name).key? keyId

theorem bucket?_id {accounts : Accounts} {name id : String} {bucket : Bucket}
    (found : accounts.bucket? name id = some bucket) : bucket.id = id :=
  Account.bucket?_id found

theorem key?_id {accounts : Accounts} {name id : String} {key : ApplicationKey}
    (found : accounts.key? name id = some key) : key.id = id :=
  Account.key?_id found

theorem account_putAccount (accounts : Accounts) (name : String) (account : Account)
    (other : String) :
    (accounts.putAccount name account).account other =
      if name = other then account else accounts.account other := by
  unfold putAccount Accounts.account
  rw [Account.lookup_put]
  split <;> rfl

section

variable {accounts after : Accounts} {name : String} {account : Account}

/-! ## Changing one account -/

/-- One account was changed and all others stayed as they were. -/
def Changes (accounts after : Accounts) (name : String) (account : Account) : Prop :=
  ∀ other, after.account other = if name = other then account else accounts.account other

namespace Changes

variable {α : Type} {find : Account → String → Option α}

theorem kept (changes : Changes accounts after name account)
    (keeps : ∀ id, find account id = find (accounts.account name) id) (other id : String) :
    find (after.account other) id = find (accounts.account other) id := by
  rw [changes other]
  by_cases same : name = other
  · subst same
    rw [if_pos rfl, keeps]
  · rw [if_neg same]

theorem placed {item : Option α} {itemId : String}
    (changes : Changes accounts after name account)
    (places : ∀ id, find account id =
      if itemId = id then item else find (accounts.account name) id) (other id : String) :
    find (after.account other) id =
      if name = other ∧ itemId = id then item else find (accounts.account other) id := by
  rw [changes other]
  by_cases same : name = other
  · subst same
    simp [places]
  · simp [same]

theorem view_eq {β : Type} {view : Account → β} (changes : Changes accounts after name account)
    (same : view account = view (accounts.account name)) (other : String) :
    view (after.account other) = view (accounts.account other) := by
  rw [changes other]
  split
  · rename_i here
    rw [same, here]
  · rfl

end Changes

/-! ## Creating a bucket -/

variable {bucketName : String} {bucket : Bucket}

theorem createBucket_ok (created : accounts.createBucket name bucketName = (.ok bucket, after)) :
    bucket = .new accounts.ids.next bucketName ∧
      Changes accounts after name ((accounts.account name).addBucket bucket) := by
  unfold createBucket Account.createBucket at created
  split at created
  · cases created
  · rename_i result
    split at result
    · cases result
    · cases result
      cases created
      exact ⟨rfl, account_putAccount accounts name _⟩

theorem createBucket_error {error : Error}
    (refused : accounts.createBucket name bucketName = (.error error, after)) :
    after = accounts := by
  unfold createBucket at refused
  split at refused
  · cases refused
    rfl
  · cases refused

theorem bucket?_createBucket
    (created : accounts.createBucket name bucketName = (.ok bucket, after))
    (other id : String) :
    after.bucket? other id =
      if name = other ∧ bucket.id = id then some bucket else accounts.bucket? other id :=
  (createBucket_ok created).2.placed (Account.bucket?_addBucket _ bucket) other id

theorem key?_createBucket
    (created : accounts.createBucket name bucketName = (.ok bucket, after))
    (other id : String) : after.key? other id = accounts.key? other id :=
  (createBucket_ok created).2.kept (Account.key?_addBucket _ bucket) other id

/-! ## Creating a key -/

variable {request : KeyRequest} {key : ApplicationKey}

theorem createKey_ok (created : accounts.createKey name request = (.ok key, after)) :
    key = request.granted accounts.ids.next ∧
      (∀ bucketId, request.bucketId = some bucketId →
        (accounts.bucket? name bucketId).isSome) ∧
      Changes accounts after name ((accounts.account name).addKey key) := by
  unfold createKey Account.createKey at created
  split at created
  · cases created
  · rename_i result
    split at result
    · rename_i unbound
      cases result
      cases created
      exact ⟨rfl, fun bucketId bound => absurd (unbound.symm.trans bound) nofun,
        account_putAccount accounts name _⟩
    · rename_i bucketId bound
      split at result
      · cases result
      · rename_i found
        cases result
        cases created
        refine ⟨rfl, fun other same => ?_, account_putAccount accounts name _⟩
        cases bound.symm.trans same
        exact Option.isSome_of_eq_some found

theorem createKey_error {error : Error}
    (refused : accounts.createKey name request = (.error error, after)) :
    after = accounts ∧ ∃ bucketId, request.bucketId = some bucketId ∧
      accounts.bucket? name bucketId = none := by
  unfold createKey Account.createKey at refused
  split at refused
  · rename_i result
    cases refused
    split at result
    · cases result
    · rename_i bucketId bound
      split at result
      · rename_i absent
        exact ⟨rfl, bucketId, bound, absent⟩
      · cases result
  · cases refused

theorem createKey_of_missing {bucketId : String} (bound : request.bucketId = some bucketId)
    (missing : accounts.bucket? name bucketId = none) :
    accounts.createKey name request =
      (.error (.backend .notFound "no such bucket" (some bucketId)), accounts) := by
  have absent : (accounts.account name).bucket? bucketId = none := missing
  simp only [createKey, Account.createKey, bound, absent]

theorem createKey_of_found {bucketId : String} {stored : Bucket}
    (bound : request.bucketId = some bucketId)
    (found : accounts.bucket? name bucketId = some stored) :
    ∃ after, accounts.createKey name request = (.ok (request.granted accounts.ids.next), after) := by
  rcases created : accounts.createKey name request with ⟨error | key, after⟩
  · obtain ⟨-, other, boundOther, missing⟩ := createKey_error created
    cases bound.symm.trans boundOther
    cases found.symm.trans missing
  · exact ⟨after, by rw [(createKey_ok created).1]⟩

theorem bucket?_createKey (created : accounts.createKey name request = (.ok key, after))
    (other id : String) : after.bucket? other id = accounts.bucket? other id :=
  (createKey_ok created).2.2.kept (Account.bucket?_addKey _ key) other id

theorem key?_createKey (created : accounts.createKey name request = (.ok key, after))
    (other id : String) :
    after.key? other id =
      if name = other ∧ key.id = id then some key else accounts.key? other id :=
  (createKey_ok created).2.2.placed (Account.key?_addKey _ key) other id

theorem keys_createKey (created : accounts.createKey name request = (.ok key, after))
    (fresh : accounts.key? name key.id = none) (other : String) :
    (after.account other).keys =
      if name = other then (accounts.account other).keys ++ [key]
      else (accounts.account other).keys := by
  rw [(createKey_ok created).2.2 other]
  split
  · rename_i here
    subst here
    exact Account.put_of_absent fresh
  · rfl

/-! ## Deleting a key -/

theorem deleteKey_changes (accounts : Accounts) (name keyId : String) :
    Changes accounts (accounts.deleteKey name keyId).2 name
      ((accounts.account name).deleteKey keyId).2 :=
  account_putAccount accounts name _

theorem bucket?_deleteKey (accounts : Accounts) (name keyId other id : String) :
    (accounts.deleteKey name keyId).2.bucket? other id = accounts.bucket? other id :=
  (deleteKey_changes accounts name keyId).kept (Account.bucket?_deleteKey _ keyId) other id

theorem key?_deleteKey (accounts : Accounts) (name keyId other id : String) :
    (accounts.deleteKey name keyId).2.key? other id =
      if name = other ∧ keyId = id then none else accounts.key? other id :=
  (deleteKey_changes accounts name keyId).placed (Account.key?_deleteKey _ keyId) other id

/-! ## Updating a bucket -/

variable {bucketId : String} {revision : UInt64} {settings : ReplicationSettings}

/-- An update checks the settings, then the bucket, then the revision. -/
theorem updateBucket_eq (accounts : Accounts) (name bucketId : String) (revision : UInt64)
    (settings : ReplicationSettings) :
    accounts.updateBucket name bucketId revision settings =
      match settings.problem?, accounts.bucket? name bucketId with
      | some problem, _ => (.error (.invalidReplication problem), accounts)
      | none, none =>
        (.error (.backend .notFound "no such bucket" (some bucketId)), accounts)
      | none, some stored =>
        if stored.revision = revision then
          (.ok (stored.updated settings),
            accounts.putAccount name
              ((accounts.account name).putBucket (stored.updated settings)))
        else (.error (.revisionMismatch bucketId revision stored.revision), accounts) := by
  unfold updateBucket Account.updateBucket bucket?
  cases settings.problem? with
  | some problem => rfl
  | none =>
      cases (accounts.account name).bucket? bucketId with
      | none => rfl
      | some stored =>
          by_cases current : stored.revision = revision
          · subst current
            simp only [if_true]
            rfl
          · simp only [current, if_false]

theorem updateBucket_of_current {stored : Bucket} (valid : settings.problem? = none)
    (found : accounts.bucket? name bucketId = some stored) :
    accounts.updateBucket name bucketId stored.revision settings =
      (.ok (stored.updated settings),
        accounts.putAccount name
          ((accounts.account name).putBucket (stored.updated settings))) := by
  rw [updateBucket_eq, valid, found]
  exact if_pos rfl

theorem updateBucket_of_stale {stored : Bucket} (valid : settings.problem? = none)
    (found : accounts.bucket? name bucketId = some stored) (stale : stored.revision ≠ revision) :
    accounts.updateBucket name bucketId revision settings =
      (.error (.revisionMismatch bucketId revision stored.revision), accounts) := by
  rw [updateBucket_eq, valid, found]
  exact if_neg stale

theorem updateBucket_ok
    (updated : accounts.updateBucket name bucketId revision settings = (.ok bucket, after)) :
    settings.problem? = none ∧
      ∃ stored, accounts.bucket? name bucketId = some stored ∧ stored.revision = revision ∧
        bucket = stored.updated settings ∧
        Changes accounts after name ((accounts.account name).putBucket bucket) := by
  rw [updateBucket_eq] at updated
  cases problem : settings.problem? with
  | some problem => simp [problem] at updated
  | none =>
      cases found : accounts.bucket? name bucketId with
      | none => simp [problem, found] at updated
      | some stored =>
          simp only [problem, found] at updated
          split at updated
          · rename_i current
            cases updated
            exact ⟨rfl, stored, rfl, current, rfl, account_putAccount accounts name _⟩
          · cases updated

theorem updateBucket_error {error : Error}
    (refused : accounts.updateBucket name bucketId revision settings = (.error error, after)) :
    after = accounts := by
  rw [updateBucket_eq] at refused
  split at refused
  · cases refused
    rfl
  · cases refused
    rfl
  · split at refused
    · cases refused
    · cases refused
      rfl

theorem updateBucket_id
    (updated : accounts.updateBucket name bucketId revision settings = (.ok bucket, after)) :
    bucket.id = bucketId := by
  rcases updateBucket_ok updated with ⟨_, stored, found, _, rfl, _⟩
  have same : stored.id = bucketId := bucket?_id found
  exact same

theorem bucket?_updateBucket
    (updated : accounts.updateBucket name bucketId revision settings = (.ok bucket, after))
    (other id : String) :
    after.bucket? other id =
      if name = other ∧ bucket.id = id then some bucket else accounts.bucket? other id :=
  let ⟨_, _, _, _, _, changes⟩ := updateBucket_ok updated
  changes.placed (Account.bucket?_putBucket _ bucket) other id

theorem keys_updateBucket
    (updated : accounts.updateBucket name bucketId revision settings = (.ok bucket, after))
    (other : String) : (after.account other).keys = (accounts.account other).keys :=
  let ⟨_, _, _, _, _, changes⟩ := updateBucket_ok updated
  changes.view_eq rfl other

theorem key?_updateBucket
    (updated : accounts.updateBucket name bucketId revision settings = (.ok bucket, after))
    (other id : String) : after.key? other id = accounts.key? other id :=
  let ⟨_, _, _, _, _, changes⟩ := updateBucket_ok updated
  changes.kept (Account.key?_putBucket _ bucket) other id

end

end Accounts

end BucketReplication
