import BucketReplication.Key.ApplicationKey
import BucketReplication.Text.Display

/-! # Log events

What is reported while buckets and keys are changed. Each event has a level, a
message, and fields whose values are text. -/

namespace BucketReplication

inductive LogLevel where
  | debug
  | info
  | warn
deriving DecidableEq, Repr

inductive Event where
  | keyCreated (keyId keyName : String)
  | replicationStored (bucket : String) (revision : UInt64)
  | updatingReplication (bucket : String) (revision : UInt64)
  | addingRule (source destination rule : String) (priority : UInt32) (fileNameStart : String)
  | mappingKey (bucket sourceKeyId destinationKeyId : String)
  | sourceKeyNotSet
  | sourceKeyDeleted (keyId : String)
  | sourceKeyNarrowed (keyId : String) (fileNameStart : Option String)
  | sourceKeyUnfit (keyId : String) (capabilities : CapabilitySet)
  | sourceKeyReused (keyId : String)
  /-- A rule is for some files only, but its key will reach all of them. -/
  | sourceKeyNotNarrowed (fileNameStart : String)
  | sourceKeyCreated (keyId keyName : String)
  | destinationKeyDeleted (keyId : String)
  | destinationKeysDeleted (bucket : String) (keyIds : List String)
  | destinationKeyFit (keyId : String)
  | destinationKeyUnfit (keyId : String) (fileNameStart : Option String)
      (capabilities : CapabilitySet)
  | destinationKeyMissing (bucket : String)
  | destinationKeyCreated (keyId keyName : String)
deriving DecidableEq

namespace LogLevel

def name : LogLevel → String
  | .debug => "DEBUG"
  | .info => "INFO"
  | .warn => "WARN"

end LogLevel

namespace Event

open Text

def level : Event → LogLevel
  | .addingRule .. => .info
  | .mappingKey .. => .info
  | .sourceKeyCreated .. => .info
  | .destinationKeyUnfit .. => .info
  | .destinationKeyCreated .. => .info
  | .destinationKeysDeleted .. => .warn
  | _ => .debug

def message : Event → String
  | .keyCreated .. => "Created application key"
  | .replicationStored .. => "Stored bucket replication"
  | .updatingReplication .. => "Updating bucket replication"
  | .addingRule .. => "Adding replication rule"
  | .mappingKey .. => "Mapping source key to destination key"
  | .sourceKeyNotSet => "Will create a new source key because no key is set"
  | .sourceKeyDeleted _ => "Will create a new source key because the current key was deleted"
  | .sourceKeyNarrowed .. => "Will create a new source key because the current key has a prefix"
  | .sourceKeyUnfit .. =>
    "Will create a new source key because the current key lacks replication capabilities"
  | .sourceKeyReused _ => "Reusing current source key"
  | .sourceKeyNotNarrowed _ => "Source key is created without a prefix; the rule carries it"
  | .sourceKeyCreated .. => "Created replication source key"
  | .destinationKeyDeleted _ => "Zombie key found in destination key mapping"
  | .destinationKeysDeleted .. => "Destination key mapping references deleted keys"
  | .destinationKeyFit _ => "Matching destination key found"
  | .destinationKeyUnfit .. => "Non-matching destination key found"
  | .destinationKeyMissing _ => "No matching key found, making a new one"
  | .destinationKeyCreated .. => "Created replication destination key"

def fields : Event → List (String × String)
  | .keyCreated keyId keyName => [("key_id", keyId), ("key_name", keyName)]
  | .replicationStored bucket revision =>
    [("bucket", bucket), ("revision", toString revision.toNat)]
  | .updatingReplication bucket revision =>
    [("bucket", bucket), ("revision", toString revision.toNat)]
  | .addingRule source destination rule priority fileNameStart =>
    [("source", source), ("destination", destination), ("rule", rule),
     ("priority", toString priority.toNat), ("prefix", fileNameStart)]
  | .mappingKey bucket sourceKeyId destinationKeyId =>
    [("bucket", bucket), ("source_key_id", sourceKeyId),
     ("destination_key_id", destinationKeyId)]
  | .sourceKeyNotSet => []
  | .sourceKeyDeleted keyId => [("key_id", keyId)]
  | .sourceKeyNarrowed keyId fileNameStart =>
    [("key_id", keyId), ("name_prefix", displayOption (fileNameStart.map quoted))]
  | .sourceKeyUnfit keyId capabilities =>
    [("key_id", keyId), ("capabilities", CapabilitySet.display capabilities)]
  | .sourceKeyReused keyId => [("key_id", keyId)]
  | .sourceKeyNotNarrowed fileNameStart => [("prefix", fileNameStart)]
  | .sourceKeyCreated keyId keyName => [("key_id", keyId), ("key_name", keyName)]
  | .destinationKeyDeleted keyId => [("key_id", keyId)]
  | .destinationKeysDeleted bucket keyIds =>
    [("bucket", bucket), ("zombie_keys", displayList (keyIds.map quoted))]
  | .destinationKeyFit keyId => [("key_id", keyId)]
  | .destinationKeyUnfit keyId fileNameStart capabilities =>
    [("key_id", keyId), ("name_prefix", displayOption (fileNameStart.map quoted)),
     ("capabilities", CapabilitySet.display capabilities)]
  | .destinationKeyMissing bucket => [("bucket", bucket)]
  | .destinationKeyCreated keyId keyName => [("key_id", keyId), ("key_name", keyName)]

end Event

end BucketReplication
