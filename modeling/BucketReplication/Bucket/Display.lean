import BucketReplication.Bucket.Snapshot
import BucketReplication.Text.Display

/-! # Display of buckets and their settings -/

namespace BucketReplication

open Text

def Rule.display (rule : Rule) : String :=
  displayStructure "ReplicationRule"
    [("name", quoted rule.name),
     ("priority", toString rule.priority.toNat),
     ("destination_bucket_id", quoted rule.destinationBucketId),
     ("file_name_prefix", quoted rule.fileNameStart),
     ("include_existing_files", displayFlag rule.includesExistingFiles),
     ("is_enabled", displayFlag rule.isEnabled)]

def SourceSettings.display (settings : SourceSettings) : String :=
  displayStructure "ReplicationSourceConfiguration"
    [("source_application_key_id", displayOption (settings.keyId.map quoted)),
     ("rules", displayList (settings.rules.map Rule.display))]

def KeyMapping.display (mapping : KeyMapping) : String :=
  displayMap (mapping.items.map fun (sourceKeyId, destinationKeyId) =>
    (quoted sourceKeyId, quoted destinationKeyId))

def DestinationSettings.display (settings : DestinationSettings) : String :=
  displayStructure "ReplicationDestinationConfiguration"
    [("source_to_destination_key_mapping", settings.keyMapping.display)]

def ReplicationSettings.display (settings : ReplicationSettings) : String :=
  displayStructure "ReplicationConfiguration"
    [("as_replication_source", displayOption (settings.source.map SourceSettings.display)),
     ("as_replication_destination",
      displayOption (settings.destination.map DestinationSettings.display))]

def Bucket.display (bucket : Bucket) : String :=
  displayStructure "BucketInfo"
    [("id", quoted bucket.id),
     ("name", quoted bucket.name),
     ("revision", toString bucket.revision.toNat),
     ("replication", displayOption (bucket.replication.map ReplicationSettings.display))]

end BucketReplication
