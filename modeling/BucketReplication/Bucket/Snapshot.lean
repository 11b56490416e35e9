import BucketReplication.Replication.Settings

/-! # Bucket snapshots

What is known of a bucket at one moment. Every update raises the revision, so
an update can be made to depend on nothing having changed since the snapshot. -/

namespace BucketReplication

open Document (Shape Fields)

structure Bucket where
  id : String
  name : String
  revision : UInt64
  replication : Option ReplicationSettings
deriving DecidableEq

namespace Bucket

def new (id name : String) : Bucket := ⟨id, name, 1, none⟩

def rules (bucket : Bucket) : List Rule :=
  match bucket.replication with
  | none => []
  | some settings => settings.rules

def sourceKeyId (bucket : Bucket) : Option String :=
  bucket.replication.bind ReplicationSettings.sourceKeyId

def sourceSettings (bucket : Bucket) : Option SourceSettings :=
  bucket.replication.bind ReplicationSettings.source

def destinationSettings (bucket : Bucket) : Option DestinationSettings :=
  bucket.replication.bind ReplicationSettings.destination

def shape : Shape Bucket :=
  .converted
    (.record "BucketInfo"
      (.field "bucketId" .text none
      (.field "bucketName" .text none
      (.field "revision" (.natural .word64) none
      (.field "replicationConfiguration" (.optional ReplicationSettings.shape) (some none)
      .done)))))
    (fun (id, name, revision, replication, ()) => ⟨id, name, revision, replication⟩)
    (fun bucket => (bucket.id, bucket.name, bucket.revision, bucket.replication, ()))

end Bucket

/-- The bucket and the file name of a path such as `bucket/name/of/file`. The
file name is empty when there is no slash. -/
def splitBucketPath (path : String) : String × String :=
  let characters := path.toList
  let bucket := characters.takeWhile (· ≠ '/')
  let remaining := characters.dropWhile (· ≠ '/')
  (String.ofList bucket, String.ofList (remaining.drop 1))

end BucketReplication
