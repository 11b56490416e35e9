import BucketReplication.Bucket.Display
import BucketReplication.Setup.Procedure

/-! # Bucket handles

A snapshot of a bucket with the account that it was read from. Two buckets may
belong to different accounts, so each handle names its own. -/

namespace BucketReplication

structure Handle where
  account : String
  bucket : Bucket
deriving DecidableEq

namespace Handle

variable {σ : Type}

def fetch (gateway : Gateway σ) (account name : String) : Procedure σ Handle := do
  let bucket ← Procedure.call gateway account (.getBucketByName name)
  return ⟨account, bucket⟩

/-- Store the settings of the bucket, given that it is at a revision. The
result is a new handle; the old one stays as it was. -/
def update (gateway : Gateway σ) (handle : Handle) (revision : UInt64)
    (settings : ReplicationSettings) : Procedure σ Handle := do
  Procedure.report (.updatingReplication handle.bucket.name revision)
  let bucket ←
    Procedure.call gateway handle.account (.updateBucket handle.bucket.id revision settings)
  return ⟨handle.account, bucket⟩

def display (handle : Handle) : String :=
  Text.displayPartly "Bucket" [("info", handle.bucket.display)]

end Handle

end BucketReplication
