import BucketReplication.Proofs.Accounts.Operation

/-! # Ids that were given out

Accounts remember the ids of all buckets and keys that they created. What is
found by id was created, so the id of something new was not in use as long as no
id is given out twice. -/

namespace BucketReplication.Accounts

/-- No account gave the same id to two buckets or to two keys. -/
def IdsDistinct (accounts : Accounts) : Prop :=
  ∀ name, (accounts.account name).createdBuckets.Nodup ∧
    (accounts.account name).createdKeys.Nodup

theorem idsDistinct_of_entries {accounts : Accounts}
    (distinct : ∀ entry ∈ accounts.byName,
      entry.2.createdBuckets.Nodup ∧ entry.2.createdKeys.Nodup) : accounts.IdsDistinct := by
  intro name
  unfold account
  cases found : accounts.byName.lookup name with
  | none => exact ⟨List.nodup_nil, List.nodup_nil⟩
  | some account =>
      rcases List.lookup_eq_some_iff.1 found with ⟨before, after, listed, _⟩
      exact distinct (name, account) (listed ▸ by simp)

/-- Ids are given out, and never taken back. -/
structure Grows (accounts after : Accounts) : Prop where
  buckets : ∀ name, (accounts.account name).createdBuckets <+: (after.account name).createdBuckets
  keys : ∀ name, (accounts.account name).createdKeys <+: (after.account name).createdKeys

namespace Grows

variable {accounts between after : Accounts}

theorem refl (accounts : Accounts) : Grows accounts accounts :=
  ⟨fun _ => List.prefix_rfl, fun _ => List.prefix_rfl⟩

theorem trans (first : Grows accounts between) (second : Grows between after) :
    Grows accounts after where
  buckets name := (first.buckets name).trans (second.buckets name)
  keys name := (first.keys name).trans (second.keys name)

theorem idsDistinct (grows : Grows accounts after) (distinct : after.IdsDistinct) :
    accounts.IdsDistinct := by
  intro name
  have unrepeated := distinct name
  exact ⟨unrepeated.1.sublist (grows.buckets name).sublist,
    unrepeated.2.sublist (grows.keys name).sublist⟩

theorem of_changes {name : String} {account : Account}
    (changes : Changes accounts after name account)
    (buckets : (accounts.account name).createdBuckets <+: account.createdBuckets)
    (keys : (accounts.account name).createdKeys <+: account.createdKeys) :
    Grows accounts after := by
  constructor
  · intro other
    rw [changes other]
    split
    · rename_i same
      exact same ▸ buckets
    · exact List.prefix_rfl
  · intro other
    rw [changes other]
    split
    · rename_i same
      exact same ▸ keys
    · exact List.prefix_rfl

end Grows

structure Listed (accounts : Accounts) : Prop where
  bucket : ∀ {name id : String} {bucket : Bucket}, accounts.bucket? name id = some bucket →
    id ∈ (accounts.account name).createdBuckets
  key : ∀ {name id : String} {key : ApplicationKey}, accounts.key? name id = some key →
    id ∈ (accounts.account name).createdKeys

theorem listed_start (ids : List String) : Listed (start ids) := by
  constructor
  · intro name id bucket found
    cases found
  · intro name id key found
    cases found

def KeepsKeys (accounts after : Accounts) : Prop :=
  ∀ name id key, accounts.key? name id = some key → after.key? name id = some key

section

variable {accounts after : Accounts} {name : String}

/-! ## Creating a bucket -/

section

variable {bucketName : String} {bucket : Bucket}
  (created : accounts.createBucket name bucketName = (.ok bucket, after))

include created

theorem createdBuckets_createBucket :
    (after.account name).createdBuckets =
      (accounts.account name).createdBuckets ++ [bucket.id] := by
  rw [(createBucket_ok created).2 name, if_pos rfl]
  rfl

theorem createBucket_grows : Grows accounts after :=
  .of_changes (createBucket_ok created).2 (List.prefix_append _ _) List.prefix_rfl

theorem createBucket_listed (listed : Listed accounts) : Listed after := by
  have grows := createBucket_grows created
  constructor
  · intro other id stored found
    rw [bucket?_createBucket created] at found
    split at found
    · rename_i new
      rcases new with ⟨rfl, rfl⟩
      rw [createdBuckets_createBucket created]
      exact List.mem_append_right _ (List.mem_singleton_self _)
    · exact (grows.buckets other).subset (listed.bucket found)
  · intro other id key found
    rw [key?_createBucket created] at found
    exact (grows.keys other).subset (listed.key found)

theorem createBucket_new (distinct : after.IdsDistinct) :
    bucket.id ∉ (accounts.account name).createdBuckets := by
  have unrepeated := (distinct name).1
  rw [createdBuckets_createBucket created, List.nodup_append] at unrepeated
  intro listed
  exact unrepeated.2.2 _ listed _ (List.mem_singleton_self _) rfl

theorem createBucket_fresh (listed : Listed accounts) (distinct : after.IdsDistinct) :
    accounts.bucket? name bucket.id = none := by
  cases found : accounts.bucket? name bucket.id with
  | none => rfl
  | some stored => exact absurd (listed.bucket found) (createBucket_new created distinct)

end

/-! ## Creating a key -/

section

variable {request : KeyRequest} {key : ApplicationKey}
  (created : accounts.createKey name request = (.ok key, after))

include created

theorem createdKeys_createKey :
    (after.account name).createdKeys = (accounts.account name).createdKeys ++ [key.id] := by
  rw [(createKey_ok created).2.2 name, if_pos rfl]
  rfl

theorem createKey_grows : Grows accounts after :=
  .of_changes (createKey_ok created).2.2 List.prefix_rfl (List.prefix_append _ _)

theorem createKey_listed (listed : Listed accounts) : Listed after := by
  have grows := createKey_grows created
  constructor
  · intro other id stored found
    rw [bucket?_createKey created] at found
    exact (grows.buckets other).subset (listed.bucket found)
  · intro other id stored found
    rw [key?_createKey created] at found
    split at found
    · rename_i new
      rcases new with ⟨rfl, rfl⟩
      rw [createdKeys_createKey created]
      exact List.mem_append_right _ (List.mem_singleton_self _)
    · exact (grows.keys other).subset (listed.key found)

theorem createKey_new (distinct : after.IdsDistinct) :
    key.id ∉ (accounts.account name).createdKeys := by
  have unrepeated := (distinct name).2
  rw [createdKeys_createKey created, List.nodup_append] at unrepeated
  intro listed
  exact unrepeated.2.2 _ listed _ (List.mem_singleton_self _) rfl

theorem createKey_fresh (listed : Listed accounts) (distinct : after.IdsDistinct) :
    accounts.key? name key.id = none := by
  cases found : accounts.key? name key.id with
  | none => rfl
  | some stored => exact absurd (listed.key found) (createKey_new created distinct)

theorem createKey_keepsKeys (fresh : accounts.key? name key.id = none) :
    KeepsKeys accounts after := by
  intro other id stored found
  rw [key?_createKey created]
  split
  · rename_i new
    rcases new with ⟨rfl, rfl⟩
    rw [fresh] at found
    cases found
  · exact found

end

def AddsKey (accounts after : Accounts) : Prop :=
  after = accounts ∨
    ∃ name request key, accounts.createKey name request = (.ok key, after)

theorem createKey_addsKey (accounts : Accounts) (name : String) (request : KeyRequest) :
    AddsKey accounts (accounts.createKey name request).2 := by
  rcases created : accounts.createKey name request with ⟨error | key, after⟩
  · exact .inl (createKey_error created).1
  · exact .inr ⟨name, request, key, created⟩

namespace AddsKey

theorem bucket? (adds : AddsKey accounts after) (other id : String) :
    after.bucket? other id = accounts.bucket? other id := by
  rcases adds with rfl | ⟨name, request, key, created⟩
  · rfl
  · exact bucket?_createKey created other id

theorem view_eq {β : Type} {view : Account → β} (adds : AddsKey accounts after)
    (keeps : ∀ account key, view (Account.addKey account key) = view account) (other : String) :
    view (after.account other) = view (accounts.account other) := by
  rcases adds with rfl | ⟨name, request, key, created⟩
  · rfl
  · exact (createKey_ok created).2.2.view_eq (keeps _ key) other

theorem grows (adds : AddsKey accounts after) : Grows accounts after := by
  rcases adds with rfl | ⟨name, request, key, created⟩
  · exact .refl _
  · exact createKey_grows created

theorem key?_eq (adds : AddsKey accounts after) (distinct : after.IdsDistinct)
    {other id : String} (listed : id ∈ (accounts.account other).createdKeys) :
    after.key? other id = accounts.key? other id := by
  rcases adds with rfl | ⟨name, request, key, created⟩
  · rfl
  · rw [key?_createKey created, if_neg]
    rintro ⟨rfl, rfl⟩
    exact createKey_new created distinct listed

theorem keepsKeys (adds : AddsKey accounts after) (listed : Listed accounts)
    (distinct : after.IdsDistinct) : KeepsKeys accounts after := by
  rcases adds with rfl | ⟨name, request, key, created⟩
  · exact fun _ _ _ found => found
  · exact createKey_keepsKeys created (createKey_fresh created listed distinct)

end AddsKey

/-! ## Deleting a key -/

theorem deleteKey_grows (accounts : Accounts) (name keyId : String) :
    Grows accounts (accounts.deleteKey name keyId).2 :=
  .of_changes (deleteKey_changes accounts name keyId) List.prefix_rfl List.prefix_rfl

theorem deleteKey_listed (name keyId : String) (listed : Listed accounts) :
    Listed (accounts.deleteKey name keyId).2 := by
  have grows := deleteKey_grows accounts name keyId
  constructor
  · intro other id stored found
    rw [bucket?_deleteKey] at found
    exact (grows.buckets other).subset (listed.bucket found)
  · intro other id stored found
    rw [key?_deleteKey] at found
    split at found
    · cases found
    · exact (grows.keys other).subset (listed.key found)

/-! ## Updating a bucket -/

section

variable {bucketId : String} {revision : UInt64} {settings : ReplicationSettings}
  {bucket : Bucket}
  (updated : accounts.updateBucket name bucketId revision settings = (.ok bucket, after))

include updated

theorem updateBucket_grows : Grows accounts after := by
  rcases updateBucket_ok updated with ⟨_, stored, _, _, _, changes⟩
  exact .of_changes changes List.prefix_rfl List.prefix_rfl

theorem updateBucket_keepsKeys : KeepsKeys accounts after :=
  fun other id _ found => (key?_updateBucket updated other id).trans found

theorem updateBucket_listed (listed : Listed accounts) : Listed after := by
  have grows := updateBucket_grows updated
  rcases updateBucket_ok updated with ⟨_, stored, found, _, _, _⟩
  constructor
  · intro other id current present
    rw [bucket?_updateBucket updated] at present
    split at present
    · rename_i new
      rcases new with ⟨rfl, rfl⟩
      rw [updateBucket_id updated]
      exact (grows.buckets name).subset (listed.bucket found)
    · exact (grows.buckets other).subset (listed.bucket present)
  · intro other id key present
    rw [key?_updateBucket updated] at present
    exact (grows.keys other).subset (listed.key present)

end

end

end BucketReplication.Accounts
