import BucketReplication.Bucket.Snapshot
import BucketReplication.Error
import BucketReplication.Journal.Event

/-! # Gateways

The four calls that a storage backend answers, for any backend whatever: a
gateway takes the state of a backend to its next state and gives a result and
the events that the backend reports. -/

namespace BucketReplication

structure KeyRequest where
  name : String
  capabilities : List Capability
  bucketId : Option String
  fileNameStart : Option String
deriving DecidableEq, Repr

/-- A call on one account, with the type of its answer. -/
inductive Call : Type → Type where
  | getKey (keyId : String) : Call (Option ApplicationKey)
  | createKey (request : KeyRequest) : Call ApplicationKey
  | getBucketByName (name : String) : Call Bucket
  | updateBucket (bucketId : String) (revision : UInt64) (settings : ReplicationSettings) :
      Call Bucket

structure Reply (σ α : Type) where
  result : Except Error α
  events : List Event
  state : σ

structure Gateway (σ : Type) where
  perform : {α : Type} → (account : String) → Call α → σ → Reply σ α

end BucketReplication
