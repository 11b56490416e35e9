import BucketReplication.Order.Ascending
import BucketReplication.Replication.Rule

/-! # Replication settings of a bucket

A bucket can be a source, a destination, or both. As a source it has rules and
names the key that its files are read with. As a destination it maps the keys
of its sources to the keys that its files are written with. -/

namespace BucketReplication

open Document (Shape Fields)

/-- A map from the ids of source keys to the ids of destination keys, in the
order of the source keys. -/
abbrev KeyMapping := Ascending (Prod.fst : String × String → String)

namespace KeyMapping

def ofList (entries : List (String × String)) : KeyMapping :=
  Ascending.ofList Prod.fst entries

def empty : KeyMapping := Ascending.empty Prod.fst

def map (mapping : KeyMapping) (sourceKeyId destinationKeyId : String) : KeyMapping :=
  mapping.insert (sourceKeyId, destinationKeyId)

def lookup (mapping : KeyMapping) (sourceKeyId : String) : Option String :=
  mapping.items.lookup sourceKeyId

def destinationKeyIds (mapping : KeyMapping) : List String :=
  (mapping.items.map Prod.snd).eraseDups

end KeyMapping

structure SourceSettings where
  keyId : Option String
  rules : List Rule
deriving DecidableEq, Repr

structure DestinationSettings where
  keyMapping : KeyMapping
deriving DecidableEq

structure ReplicationSettings where
  source : Option SourceSettings
  destination : Option DestinationSettings
deriving DecidableEq

namespace SourceSettings

def firstRepeated (earlier : List String) : List String → Option String
  | [] => none
  | name :: rest =>
    if earlier.contains name then some name else firstRepeated (name :: earlier) rest

/-- A repeated name is found before any problem of a single rule. -/
def problem? (settings : SourceSettings) : Option RuleProblem :=
  match firstRepeated [] (settings.rules.map Rule.name) with
  | some name => some (.duplicateName name)
  | none => settings.rules.findSome? Rule.problem?

def shape : Shape SourceSettings :=
  .converted
    (.record "ReplicationSourceConfiguration"
      (.field "sourceApplicationKeyId" (.optional .text) (some none)
      (.field "replicationRules" (.sequence Rule.shape) (some [])
      .done)))
    (fun (keyId, rules, ()) => ⟨keyId, rules⟩)
    (fun settings => (settings.keyId, settings.rules, ()))

end SourceSettings

namespace DestinationSettings

def empty : DestinationSettings := ⟨.empty⟩

def shape : Shape DestinationSettings :=
  .converted
    (.record "ReplicationDestinationConfiguration"
      (.field "sourceToDestinationKeyMapping" .mapping (some [])
      .done))
    (fun (entries, ()) => ⟨.ofList entries⟩)
    (fun settings => (settings.keyMapping.items, ()))

end DestinationSettings

namespace ReplicationSettings

def isEmpty (settings : ReplicationSettings) : Bool :=
  settings.source.isNone && settings.destination.isNone

def rules (settings : ReplicationSettings) : List Rule :=
  match settings.source with
  | none => []
  | some source => source.rules

def sourceKeyId (settings : ReplicationSettings) : Option String :=
  settings.source.bind SourceSettings.keyId

/-- Only the source half can have a problem; any key mapping will do. -/
def problem? (settings : ReplicationSettings) : Option RuleProblem :=
  settings.source.bind SourceSettings.problem?

def shape : Shape ReplicationSettings :=
  .converted
    (.record "ReplicationConfiguration"
      (.field "asReplicationSource" (.optional SourceSettings.shape) (some none)
      (.field "asReplicationDestination" (.optional DestinationSettings.shape) (some none)
      .done)))
    (fun (source, destination, ()) => ⟨source, destination⟩)
    (fun settings => (settings.source, settings.destination, ()))

end ReplicationSettings

end BucketReplication
