import BucketReplication.Backend.Gateway

/-! # Accounts

The buckets and keys of one account, kept in memory. Buckets are found by id or
by name, keys by id. Both are listed in the order of their creation, which the
account remembers by the ids it gave out. -/

namespace BucketReplication

structure Account where
  keys : List ApplicationKey
  buckets : List Bucket
  bucketIds : List (String × String)
  /-- The ids of all keys ever created, the oldest first. -/
  createdKeys : List String
  createdBuckets : List String
deriving DecidableEq

namespace Account

def empty : Account := ⟨[], [], [], [], []⟩

def key? (account : Account) (keyId : String) : Option ApplicationKey :=
  account.keys.find? fun key => key.id = keyId

def bucket? (account : Account) (bucketId : String) : Option Bucket :=
  account.buckets.find? fun bucket => bucket.id = bucketId

def bucketByName? (account : Account) (name : String) : Option Bucket :=
  (account.bucketIds.lookup name).bind account.bucket?

/-- The keys that exist, in the order of their creation. An id that was given
out twice is listed twice, both times with the key it stands for now. -/
def listedKeys (account : Account) : List ApplicationKey :=
  account.createdKeys.filterMap account.key?

def listedBuckets (account : Account) : List Bucket :=
  account.createdBuckets.filterMap account.bucket?

def keyCount (account : Account) : Nat :=
  account.keys.length

def put {α : Type} (id : α → String) (item : α) : List α → List α
  | [] => [item]
  | first :: rest => if id first = id item then item :: rest else first :: put id item rest

def addKey (account : Account) (key : ApplicationKey) : Account :=
  { account with
    keys := put ApplicationKey.id key account.keys
    createdKeys := account.createdKeys ++ [key.id] }

def putBucket (account : Account) (bucket : Bucket) : Account :=
  { account with buckets := put Bucket.id bucket account.buckets }

def addBucket (account : Account) (bucket : Bucket) : Account :=
  let stored := account.putBucket bucket
  { stored with
    bucketIds := stored.bucketIds ++ [(bucket.name, bucket.id)]
    createdBuckets := stored.createdBuckets ++ [bucket.id] }

def createBucket (account : Account) (id name : String) : Except Error (Bucket × Account) :=
  match account.bucketIds.lookup name with
  | some _ => .error (.backend .badRequest "bucket name is already in use" (some name))
  | none =>
    let bucket := Bucket.new id name
    .ok (bucket, account.addBucket bucket)

/-- A key for one bucket needs that bucket. -/
def createKey (account : Account) (id : String) (request : KeyRequest) :
    Except Error (ApplicationKey × Account) :=
  let key : ApplicationKey :=
    { id
      name := request.name
      bucketId := request.bucketId
      fileNameStart := request.fileNameStart
      capabilities := CapabilitySet.ofList request.capabilities }
  match request.bucketId with
  | none => .ok (key, account.addKey key)
  | some bucketId =>
    match account.bucket? bucketId with
    | none => .error (.backend .notFound "no such bucket" (some bucketId))
    | some _ => .ok (key, account.addKey key)

def deleteKey (account : Account) (keyId : String) : Option ApplicationKey × Account :=
  (account.key? keyId,
    { account with keys := account.keys.filter fun key => key.id ≠ keyId })

def getBucketByName (account : Account) (name : String) : Except Error Bucket :=
  match account.bucketByName? name with
  | none => .error (.backend .notFound "no such bucket" (some name))
  | some bucket => .ok bucket

/-- Store valid settings if the bucket is still at the given revision. Invalid
settings are refused before the bucket is looked up. -/
def updateBucket (account : Account) (bucketId : String) (revision : UInt64)
    (settings : ReplicationSettings) : Except Error (Bucket × Account) :=
  match settings.problem? with
  | some problem => .error (.invalidReplication problem)
  | none =>
    match account.bucket? bucketId with
    | none => .error (.backend .notFound "no such bucket" (some bucketId))
    | some bucket =>
      if bucket.revision = revision then
        let updated :=
          { bucket with revision := bucket.revision + 1, replication := some settings }
        .ok (updated, account.putBucket updated)
      else .error (.revisionMismatch bucketId revision bucket.revision)

end Account

end BucketReplication
