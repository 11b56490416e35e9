import BucketReplication.Document.Shape
import BucketReplication.Replication.Rule

/-! # Settings of the replication setup

How priorities of new rules and names of new keys are chosen. -/

namespace BucketReplication

open Document (Shape Fields)

structure SetupSettings where
  /-- How far above the highest priority in use a new rule is placed. -/
  priorityOffset : UInt32
  defaultPriority : UInt32
  sourceKeySuffix : String
  destinationKeySuffix : String
  /-- How many characters of the bucket name go into the name of a key. -/
  keyNameBucketCharacters : UInt64
deriving DecidableEq, Repr

namespace SetupSettings

def default : SetupSettings where
  priorityOffset := 5
  defaultPriority := Rule.defaultPriority
  sourceKeySuffix := "-replisrc"
  destinationKeySuffix := "-replidst"
  keyNameBucketCharacters := 91

def isValid (settings : SetupSettings) : Bool :=
  Rule.isValidPriority settings.defaultPriority

def keyName (settings : SetupSettings) (bucketName suffix : String) : String :=
  String.ofList (bucketName.toList.take settings.keyNameBucketCharacters.toNat) ++ suffix

def sourceKeyName (settings : SetupSettings) (bucketName : String) : String :=
  settings.keyName bucketName settings.sourceKeySuffix

def destinationKeyName (settings : SetupSettings) (bucketName : String) : String :=
  settings.keyName bucketName settings.destinationKeySuffix

def shape : Shape SetupSettings :=
  .converted
    (.record "SetupConfig"
      (.field "priority_offset" (.natural .word32) (some default.priorityOffset)
      (.field "default_priority" (.natural .word32) (some default.defaultPriority)
      (.field "source_key_suffix" .text (some default.sourceKeySuffix)
      (.field "destination_key_suffix" .text (some default.destinationKeySuffix)
      (.field "key_name_bucket_chars" (.natural .size) (some default.keyNameBucketCharacters)
      .done))))))
    (fun (priorityOffset, defaultPriority, sourceKeySuffix, destinationKeySuffix,
        keyNameBucketCharacters, ()) =>
      { priorityOffset, defaultPriority, sourceKeySuffix, destinationKeySuffix,
        keyNameBucketCharacters })
    (fun settings =>
      (settings.priorityOffset, settings.defaultPriority, settings.sourceKeySuffix,
        settings.destinationKeySuffix, settings.keyNameBucketCharacters, ()))

end SetupSettings

end BucketReplication
