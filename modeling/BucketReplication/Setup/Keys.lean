import BucketReplication.Settings.Setup
import BucketReplication.Setup.Handle

/-! # Keys for replication

A key is reused while it is fit for its task, and a new one is created
otherwise. A key is fit if it reaches all files and has the capabilities that
the task needs. -/

namespace BucketReplication

def sourceCapabilities : List Capability :=
  [.known .readFiles, .known .readFileLegalHolds, .known .readFileRetentions]

example : sourceCapabilities =
    ["readFiles", "readFileLegalHolds", "readFileRetentions"].map Capability.ofName := rfl

def destinationCapabilities : List Capability :=
  [.known .writeFiles, .known .writeFileLegalHolds, .known .writeFileRetentions,
   .known .deleteFiles]

example : destinationCapabilities =
    ["writeFiles", "writeFileLegalHolds", "writeFileRetentions", "deleteFiles"].map
      Capability.ofName := rfl

namespace ApplicationKey

def isFitForSource (key : ApplicationKey) : Bool :=
  !key.isNarrowed && key.hasCapabilities sourceCapabilities

def isFitForDestination (key : ApplicationKey) : Bool :=
  key.hasCapabilities destinationCapabilities && !key.isNarrowed

end ApplicationKey

namespace Setup

variable {σ : Type}

def sourceKeyRequest (settings : SetupSettings) (bucket : Bucket) : KeyRequest where
  name := settings.sourceKeyName bucket.name
  capabilities := sourceCapabilities
  bucketId := some bucket.id
  fileNameStart := none

def destinationKeyRequest (settings : SetupSettings) (bucket : Bucket) : KeyRequest where
  name := settings.destinationKeyName bucket.name
  capabilities := destinationCapabilities
  bucketId := some bucket.id
  fileNameStart := none

/-- Create a key that reads all files of a bucket. The rule may be for some
files only; a key narrowed to these would be of no use for a wider rule. -/
def createSourceKey (gateway : Gateway σ) (settings : SetupSettings) (source : Handle)
    (fileNameStart : String) : Procedure σ ApplicationKey := do
  if !fileNameStart.isEmpty then
    Procedure.report (.sourceKeyNotNarrowed fileNameStart)
  let request := sourceKeyRequest settings source.bucket
  let key ← Procedure.call gateway source.account (.createKey request)
  Procedure.report (.sourceKeyCreated key.id request.name)
  Procedure.count (.keysCreated .source)
  return key

def createDestinationKey (gateway : Gateway σ) (settings : SetupSettings)
    (destination : Handle) : Procedure σ ApplicationKey := do
  let request := destinationKeyRequest settings destination.bucket
  let key ← Procedure.call gateway destination.account (.createKey request)
  Procedure.report (.destinationKeyCreated key.id request.name)
  Procedure.count (.keysCreated .destination)
  return key

def objection? (keyId : String) (key : ApplicationKey) : Option Event :=
  if key.isNarrowed then some (.sourceKeyNarrowed keyId key.fileNameStart)
  else if !key.hasCapabilities sourceCapabilities then
    some (.sourceKeyUnfit keyId key.capabilities)
  else none

/-- The key of a source: the one that its settings name if it is fit, or else a
new one. -/
def sourceKey (gateway : Gateway σ) (settings : SetupSettings) (source : Handle)
    (fileNameStart : String) : Procedure σ ApplicationKey := do
  match source.bucket.sourceKeyId with
  | none =>
    Procedure.report .sourceKeyNotSet
    createSourceKey gateway settings source fileNameStart
  | some keyId =>
    let current ← Procedure.call gateway source.account (.getKey keyId)
    match current with
    | none =>
      Procedure.report (.sourceKeyDeleted keyId)
      createSourceKey gateway settings source fileNameStart
    | some key =>
      match objection? keyId key with
      | some objection =>
        Procedure.report objection
        createSourceKey gateway settings source fileNameStart
      | none =>
        Procedure.report (.sourceKeyReused key.id)
        return key

/-- What is known about the mapped keys after some were looked up: the ids of
those that no longer exist, and the last one that is fit. -/
structure KeySurvey where
  deleted : List String
  fit : Option ApplicationKey

def inspectKey (gateway : Gateway σ) (account : String) (survey : KeySurvey)
    (keyId : String) : Procedure σ KeySurvey := do
  let found ← Procedure.call gateway account (.getKey keyId)
  match found with
  | none =>
    Procedure.report (.destinationKeyDeleted keyId)
    Procedure.count .deletedKeysFound
    return { survey with deleted := survey.deleted ++ [keyId] }
  | some key =>
    if key.isFitForDestination then
      Procedure.report (.destinationKeyFit keyId)
      return { survey with fit := some key }
    else
      Procedure.report (.destinationKeyUnfit keyId key.fileNameStart key.capabilities)
      return survey

def surveyKeys (gateway : Gateway σ) (account : String) :
    List String → KeySurvey → Procedure σ KeySurvey
  | [], survey => return survey
  | keyId :: rest, survey => do
    let next ← inspectKey gateway account survey keyId
    surveyKeys gateway account rest next

/-- The key of a destination: the last fit one of those mapped, or else a new
one. The ids of mapped keys that no longer exist come with it. -/
def destinationKey (gateway : Gateway σ) (settings : SetupSettings) (destination : Handle)
    (mapping : KeyMapping) : Procedure σ (List String × ApplicationKey) := do
  let survey ←
    surveyKeys gateway destination.account (KeyMapping.destinationKeyIds mapping) ⟨[], none⟩
  match survey.fit with
  | some key => return (survey.deleted, key)
  | none =>
    Procedure.report (.destinationKeyMissing destination.bucket.name)
    let key ← createDestinationKey gateway settings destination
    return (survey.deleted, key)

end Setup

end BucketReplication
