import BucketReplication.Setup.Keys
import BucketReplication.Setup.NewRule

/-! # Setting up replication

To replicate a source bucket into a destination bucket both have to know of it:
the source gets a rule and a key to read with, and the destination maps that key
to one of its own to write with. Each side is stored by one update that depends
on the revision of the handle, and nothing is taken back if a later step
fails. -/

namespace BucketReplication.Setup

variable {σ : Type}

def ruleToAdd (settings : SetupSettings) (source destination : Bucket) (wished : NewRule) :
    Rule where
  name := NewRule.chooseName source.rules destination.name wished.name
  priority := NewRule.choosePriority settings source.rules wished.priority
  destinationBucketId := destination.id
  fileNameStart := wished.fileNameStart.getD ""
  includesExistingFiles := wished.includesExistingFiles
  isEnabled := true

/-- The settings of a source with one more rule and a key. What it is as a
destination stays as it is. -/
def settingsWithRule (source : Bucket) (keyId : String) (rule : Rule) :
    ReplicationSettings where
  source := some ⟨some keyId, source.rules ++ [rule]⟩
  destination := source.destinationSettings

def settingsWithMapping (destination : Bucket) (sourceKeyId destinationKeyId : String) :
    ReplicationSettings where
  source := destination.sourceSettings
  destination :=
    let current := destination.destinationSettings.getD .empty
    some ⟨KeyMapping.map current.keyMapping sourceKeyId destinationKeyId⟩

/-- Add a rule to a source bucket. The key comes first, even if the rule then
turns out to be invalid. -/
def setupSource (gateway : Gateway σ) (settings : SetupSettings)
    (source destination : Handle) (wished : NewRule) : Procedure σ Handle := do
  let key ← sourceKey gateway settings source (wished.fileNameStart.getD "")
  let rule := ruleToAdd settings source.bucket destination.bucket wished
  match rule.problem? with
  | some problem => throw (.invalidReplication problem)
  | none =>
    Procedure.report
      (.addingRule source.bucket.name destination.bucket.name rule.name rule.priority
        rule.fileNameStart)
    let updated ←
      source.update gateway source.bucket.revision (settingsWithRule source.bucket key.id rule)
    Procedure.count .rulesCreated
    return updated

/-- Let the holder of a source key replicate into a destination bucket. -/
def setupDestination (gateway : Gateway σ) (settings : SetupSettings)
    (sourceKeyId : String) (destination : Handle) : Procedure σ Handle := do
  let current := destination.bucket.destinationSettings.getD .empty
  let (deleted, key) ← destinationKey gateway settings destination current.keyMapping
  if !deleted.isEmpty then
    Procedure.report (.destinationKeysDeleted destination.bucket.name deleted)
  Procedure.report (.mappingKey destination.bucket.name sourceKeyId key.id)
  destination.update gateway destination.bucket.revision
    (settingsWithMapping destination.bucket sourceKeyId key.id)

def setupBoth (gateway : Gateway σ) (settings : SetupSettings)
    (source destination : Handle) (wished : NewRule) : Procedure σ (Handle × Handle) := do
  let newSource ← setupSource gateway settings source destination wished
  match newSource.bucket.sourceKeyId with
  | none =>
    throw (.internal
      ("bucket " ++ newSource.bucket.name ++ " has no source key after replication setup"))
  | some sourceKeyId =>
    let newDestination ← setupDestination gateway settings sourceKeyId destination
    return (newSource, newDestination)

end BucketReplication.Setup
