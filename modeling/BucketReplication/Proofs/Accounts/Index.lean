import BucketReplication.Proofs.Accounts.Creation
import Mathlib.Data.List.Nodup

/-! # Names and ids

An account keeps the ids of its buckets by name beside the buckets themselves. The
two agree as long as no id is given out twice: each name stands for the bucket that
has it. -/

namespace BucketReplication

namespace Account

section

variable {α : Type} {id : α → String} {item : α} {items : List α}

theorem find?_of_mem (distinct : (items.map id).Nodup) (member : item ∈ items) :
    items.find? (fun other => id other = id item) = some item := by
  induction items with
  | nil => cases member
  | cons head tail induction =>
      rw [List.map_cons, List.nodup_cons] at distinct
      rcases List.mem_cons.1 member with rfl | inTail
      · simp
      · have different : id head ≠ id item := fun same =>
          distinct.1 (same ▸ List.mem_map_of_mem inTail)
        simpa [different] using induction distinct.2 inTail

theorem map_put {β : Type} {shown : α → β} {stored : α}
    (found : items.find? (fun other => id other = id item) = some stored)
    (same : shown item = shown stored) : (put id item items).map shown = items.map shown := by
  induction items with
  | nil => cases found
  | cons head tail induction =>
      by_cases replaced : id head = id item
      · simp only [replaced, decide_true, List.find?_cons_of_pos, Option.some.injEq] at found
        subst found
        simp [put, replaced, same]
      · simp only [replaced, decide_false, Bool.false_eq_true, not_false_eq_true, List.find?_cons_of_neg] at found
        simp [put, replaced, induction found]

theorem nodup_map_put (distinct : (items.map id).Nodup) :
    ((put id item items).map id).Nodup := by
  cases found : items.find? (fun other => id other = id item) with
  | none =>
      rw [put_of_absent found, List.map_append]
      refine List.concat_eq_append ▸ List.Nodup.concat (fun taken => ?_) distinct
      rcases List.mem_map.1 taken with ⟨other, listed, same⟩
      simpa [same] using List.find?_eq_none.1 found other listed
  | some stored =>
      have same : id stored = id item := by simpa using List.find?_some found
      rwa [map_put found same.symm]

end

theorem getBucketByName_eq_ok_iff (account : Account) (name : String) (bucket : Bucket) :
    account.getBucketByName name = .ok bucket ↔
      ∃ id, account.bucketIds.lookup name = some id ∧ account.bucket? id = some bucket := by
  rw [← Option.bind_eq_some_iff, getBucketByName, bucketByName?]
  cases (account.bucketIds.lookup name).bind account.bucket? <;> simp

/-- The ids by name are those of the buckets, and no id and no name is there twice. -/
structure Indexed (account : Account) : Prop where
  created : account.createdBuckets = account.buckets.map Bucket.id
  named : account.bucketIds = account.buckets.map fun bucket => (bucket.name, bucket.id)
  names : (account.buckets.map Bucket.name).Nodup
  keys : (account.keys.map ApplicationKey.id).Nodup

theorem indexed_empty : Indexed empty :=
  ⟨rfl, rfl, List.nodup_nil, List.nodup_nil⟩

namespace Indexed

variable {account : Account}

theorem addKey (indexed : account.Indexed) (key : ApplicationKey) :
    (account.addKey key).Indexed :=
  ⟨indexed.created, indexed.named, indexed.names, nodup_map_put indexed.keys⟩

theorem deleteKey (indexed : account.Indexed) (keyId : String) :
    (account.deleteKey keyId).2.Indexed :=
  ⟨indexed.created, indexed.named, indexed.names,
    indexed.keys.sublist (List.filter_sublist.map ApplicationKey.id)⟩

theorem putBucket (indexed : account.Indexed) {stored bucket : Bucket}
    (found : account.bucket? bucket.id = some stored) (renamed : bucket.name = stored.name) :
    (account.putBucket bucket).Indexed := by
  have sameId : bucket.id = stored.id := (bucket?_id found).symm
  constructor
  · exact indexed.created.trans (map_put found sameId).symm
  · refine indexed.named.trans (map_put found ?_).symm
    rw [renamed, sameId]
  · have names : (account.putBucket bucket).buckets.map Bucket.name =
        account.buckets.map Bucket.name := map_put found renamed
    rw [names]
    exact indexed.names
  · exact indexed.keys

theorem bucket?_of_new (indexed : account.Indexed) {id : String}
    (new : id ∉ account.createdBuckets) : account.bucket? id = none := by
  cases found : account.bucket? id with
  | none => rfl
  | some bucket =>
      rw [indexed.created] at new
      have listed : bucket.id ∈ account.buckets.map Bucket.id :=
        List.mem_map_of_mem (List.mem_of_find?_eq_some found)
      rw [bucket?_id found] at listed
      exact absurd listed new

theorem addBucket (indexed : account.Indexed) {bucket : Bucket}
    (new : bucket.id ∉ account.createdBuckets)
    (free : account.bucketIds.lookup bucket.name = none) :
    (account.addBucket bucket).Indexed := by
  have unnamed : bucket.name ∉ account.buckets.map Bucket.name := by
    intro taken
    rcases List.mem_map.1 taken with ⟨other, listed, same⟩
    rw [indexed.named, List.lookup_eq_none_iff] at free
    simpa [same] using free (other.name, other.id) (List.mem_map_of_mem listed)
  have buckets : (account.addBucket bucket).buckets = account.buckets ++ [bucket] :=
    put_of_absent (indexed.bucket?_of_new new)
  constructor
  · rw [buckets, List.map_append, ← indexed.created]
    rfl
  · rw [buckets, List.map_append, ← indexed.named]
    rfl
  · rw [buckets, List.map_append]
    exact List.concat_eq_append ▸ List.Nodup.concat unnamed indexed.names
  · exact indexed.keys

theorem exists_of_lookup (indexed : account.Indexed) {name id : String}
    (found : account.bucketIds.lookup name = some id) :
    ∃ bucket ∈ account.buckets, bucket.name = name ∧ bucket.id = id := by
  rcases List.lookup_eq_some_iff.1 found with ⟨before, after, listed, -⟩
  have member : (name, id) ∈ account.bucketIds := by simp [listed]
  rw [indexed.named] at member
  rcases List.mem_map.1 member with ⟨bucket, held, same⟩
  cases same
  exact ⟨bucket, held, rfl, rfl⟩

theorem lookup_of_mem (indexed : account.Indexed) {bucket : Bucket}
    (held : bucket ∈ account.buckets) :
    account.bucketIds.lookup bucket.name = some bucket.id := by
  have member : (bucket.name, bucket.id) ∈ account.bucketIds := by
    rw [indexed.named]
    exact List.mem_map_of_mem held
  cases found : account.bucketIds.lookup bucket.name with
  | none => simpa using List.lookup_eq_none_iff.1 found _ member
  | some id =>
      -- Names are different, so the name leads to no other bucket.
      rcases indexed.exists_of_lookup found with ⟨other, listed, sameName, rfl⟩
      have byName := find?_of_mem indexed.names held
      rw [← sameName, find?_of_mem indexed.names listed] at byName
      cases byName
      rfl

theorem mem_bucketIds_iff (indexed : account.Indexed) (name id : String) :
    (name, id) ∈ account.bucketIds ↔ account.bucketIds.lookup name = some id := by
  constructor
  · intro member
    rw [indexed.named] at member
    rcases List.mem_map.1 member with ⟨bucket, held, same⟩
    cases same
    exact indexed.lookup_of_mem held
  · intro found
    rcases indexed.exists_of_lookup found with ⟨bucket, held, rfl, rfl⟩
    rw [indexed.named]
    exact List.mem_map_of_mem held

theorem lookup_eq_some_iff (indexed : account.Indexed)
    (distinct : account.createdBuckets.Nodup) (name id : String) :
    account.bucketIds.lookup name = some id ↔
      ∃ bucket, account.bucket? id = some bucket ∧ bucket.name = name := by
  rw [indexed.created] at distinct
  constructor
  · intro found
    rcases indexed.exists_of_lookup found with ⟨bucket, held, rfl, rfl⟩
    exact ⟨bucket, find?_of_mem distinct held, rfl⟩
  · rintro ⟨bucket, found, rfl⟩
    rw [← bucket?_id found]
    exact indexed.lookup_of_mem (List.mem_of_find?_eq_some found)

end Indexed

end Account

namespace Accounts

def Indexed (accounts : Accounts) : Prop :=
  ∀ name, (accounts.account name).Indexed

variable {accounts after : Accounts} {name : String}

theorem indexed_start (ids : List String) : Indexed (start ids) :=
  fun _ => Account.indexed_empty

theorem Changes.indexed {account : Account} (changes : Changes accounts after name account)
    (indexed : accounts.Indexed) (changed : account.Indexed) : after.Indexed := by
  intro other
  rw [changes other]
  split
  · exact changed
  · exact indexed other

theorem createBucket_eq (accounts : Accounts) (name bucketName : String) :
    accounts.createBucket name bucketName =
      match (accounts.account name).bucketIds.lookup bucketName with
      | some _ =>
        (.error (.backend .badRequest "bucket name is already in use" (some bucketName)), accounts)
      | none =>
        (.ok (.new accounts.ids.next bucketName),
          { accounts.putAccount name
              ((accounts.account name).addBucket (.new accounts.ids.next bucketName)) with
            ids := accounts.ids.advance }) := by
  rw [createBucket, Account.createBucket]
  cases (accounts.account name).bucketIds.lookup bucketName <;> rfl

theorem createBucket_free {bucketName : String} {bucket : Bucket}
    (created : accounts.createBucket name bucketName = (.ok bucket, after)) :
    (accounts.account name).bucketIds.lookup bucketName = none := by
  rw [createBucket_eq] at created
  split at created
  · cases created
  · assumption

theorem bucketIds_createBucket {bucketName : String} {bucket : Bucket}
    (created : accounts.createBucket name bucketName = (.ok bucket, after)) (other : String) :
    (after.account other).bucketIds =
      if name = other then (accounts.account other).bucketIds ++ [(bucketName, bucket.id)]
      else (accounts.account other).bucketIds := by
  rcases createBucket_ok created with ⟨isNew, changes⟩
  rw [changes other]
  split
  · rename_i here
    subst here
    rw [isNew]
    rfl
  · rfl

theorem createBucket_indexed {bucketName : String} {bucket : Bucket}
    (created : accounts.createBucket name bucketName = (.ok bucket, after))
    (indexed : accounts.Indexed) (distinct : after.IdsDistinct) : after.Indexed := by
  have new := createBucket_new created distinct
  rcases createBucket_ok created with ⟨isNew, changes⟩
  have sameName : bucket.name = bucketName := by rw [isNew]; rfl
  exact changes.indexed indexed ((indexed name).addBucket new (sameName ▸ createBucket_free created))

theorem createKey_indexed {request : KeyRequest} {key : ApplicationKey}
    (created : accounts.createKey name request = (.ok key, after))
    (indexed : accounts.Indexed) : after.Indexed :=
  (createKey_ok created).2.2.indexed indexed ((indexed name).addKey key)

theorem deleteKey_indexed (name keyId : String) (indexed : accounts.Indexed) :
    (accounts.deleteKey name keyId).2.Indexed :=
  (deleteKey_changes accounts name keyId).indexed indexed ((indexed name).deleteKey keyId)

theorem updateBucket_indexed {bucketId : String} {revision : UInt64}
    {settings : ReplicationSettings} {bucket : Bucket}
    (updated : accounts.updateBucket name bucketId revision settings = (.ok bucket, after))
    (indexed : accounts.Indexed) : after.Indexed := by
  have sameId := updateBucket_id updated
  rcases updateBucket_ok updated with ⟨-, stored, found, -, same, changes⟩
  have renamed : bucket.name = stored.name := by rw [same]; rfl
  exact changes.indexed indexed ((indexed name).putBucket (sameId ▸ found) renamed)

/-! ## Buckets stay -/

def KeepsBuckets (accounts after : Accounts) : Prop :=
  ∀ account id bucket, accounts.bucket? account id = some bucket →
    ∃ current, after.bucket? account id = some current ∧ current.name = bucket.name

namespace KeepsBuckets

theorem refl (accounts : Accounts) : KeepsBuckets accounts accounts :=
  fun _ _ bucket found => ⟨bucket, found, rfl⟩

theorem trans {between : Accounts} (first : KeepsBuckets accounts between)
    (second : KeepsBuckets between after) : KeepsBuckets accounts after := by
  intro account id bucket found
  rcases first account id bucket found with ⟨current, foundBetween, sameName⟩
  rcases second account id current foundBetween with ⟨last, foundAfter, sameLast⟩
  exact ⟨last, foundAfter, sameLast.trans sameName⟩

theorem of_same (same : ∀ account id, after.bucket? account id = accounts.bucket? account id) :
    KeepsBuckets accounts after :=
  fun account id bucket found => ⟨bucket, (same account id).trans found, rfl⟩

end KeepsBuckets

theorem createBucket_keepsBuckets {bucketName : String} {bucket : Bucket}
    (created : accounts.createBucket name bucketName = (.ok bucket, after))
    (indexed : accounts.Indexed) (distinct : after.IdsDistinct) :
    KeepsBuckets accounts after := by
  have fresh : accounts.bucket? name bucket.id = none :=
    (indexed name).bucket?_of_new (createBucket_new created distinct)
  intro other id stored found
  rw [bucket?_createBucket created]
  split
  · rename_i here
    rcases here with ⟨rfl, rfl⟩
    rw [fresh] at found
    cases found
  · exact ⟨stored, found, rfl⟩

theorem updateBucket_keepsBuckets {bucketId : String} {revision : UInt64}
    {settings : ReplicationSettings} {bucket : Bucket}
    (updated : accounts.updateBucket name bucketId revision settings = (.ok bucket, after)) :
    KeepsBuckets accounts after := by
  have sameId := updateBucket_id updated
  rcases updateBucket_ok updated with ⟨-, stored, found, -, same, -⟩
  intro other id present here
  rw [bucket?_updateBucket updated]
  split
  · rename_i placed
    rcases placed with ⟨rfl, rfl⟩
    rw [sameId, found] at here
    cases here
    exact ⟨bucket, rfl, by rw [same]; rfl⟩
  · exact ⟨present, here, rfl⟩

end Accounts

end BucketReplication
