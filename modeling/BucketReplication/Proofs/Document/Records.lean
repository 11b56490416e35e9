import BucketReplication.Bucket.Snapshot
import BucketReplication.Key.ApplicationKey
import BucketReplication.Proofs.Document.RoundTrip
import BucketReplication.Proofs.Key.Capability
import BucketReplication.Proofs.Order.Ascending

/-! # The shapes of the records

The shapes of all records are lawful, and all records are canonical but for one
kind: a key may hold a capability that is no known one and yet has the name of
one. -/

namespace BucketReplication

open Document

theorem Capability.shape_lawful : ApplicationKey.capabilityShape.Lawful :=
  ⟨trivial, fun name _ => ⟨ofName_name_ofName name, trivial⟩⟩

theorem Rule.shape_lawful : Rule.shape.Lawful := by
  have fits : NaturalRange.word32.limit ≤ Json.Numeral.significandLimit := by decide
  simp [Rule.shape, Fields.names, fits]

theorem SourceSettings.shape_lawful : SourceSettings.shape.Lawful := by
  simp [SourceSettings.shape, Fields.names, Shape.isDefinite, Rule.shape_lawful]

theorem KeyMapping.ofList_items (mapping : KeyMapping) : ofList mapping.items = mapping :=
  Ascending.ofList_items mapping

theorem DestinationSettings.shape_lawful : DestinationSettings.shape.Lawful := by
  simp [DestinationSettings.shape, Fields.names, KeyMapping.ofList_items]

theorem ReplicationSettings.shape_lawful : ReplicationSettings.shape.Lawful := by
  have definite : SourceSettings.shape.isDefinite = true := rfl
  have definite' : DestinationSettings.shape.isDefinite = true := rfl
  simp [ReplicationSettings.shape, Fields.names, definite, definite',
    SourceSettings.shape_lawful, DestinationSettings.shape_lawful]

theorem Bucket.shape_lawful : Bucket.shape.Lawful := by
  have fits : NaturalRange.word64.limit ≤ Json.Numeral.significandLimit := by decide
  have definite : ReplicationSettings.shape.isDefinite = true := rfl
  simp [Bucket.shape, Fields.names, fits, definite, ReplicationSettings.shape_lawful]

theorem ApplicationKey.shape_lawful : ApplicationKey.shape.Lawful := by
  have rebuilt : ∀ held : CapabilitySet, CapabilitySet.ofList held.items = held :=
    Ascending.ofList_items
  have kept : ∀ listed : List Capability,
      (∀ capability ∈ listed, capabilityShape.Canonical capability) →
      ∀ capability ∈ (CapabilitySet.ofList listed).items, capabilityShape.Canonical capability :=
    fun _ canonical capability member => canonical capability (Ascending.mem_of_mem_ofList member)
  simpa [ApplicationKey.shape, Fields.names, Shape.isDefinite, Capability.shape_lawful,
    rebuilt] using kept

theorem Rule.canonical (rule : Rule) : Rule.shape.Canonical rule := by
  simp [Rule.shape]

theorem SourceSettings.canonical (settings : SourceSettings) :
    SourceSettings.shape.Canonical settings := by
  simp [SourceSettings.shape, Rule.canonical]

theorem DestinationSettings.canonical (settings : DestinationSettings) :
    DestinationSettings.shape.Canonical settings := by
  simp [DestinationSettings.shape, KeyMapping.ofList_items]

theorem ReplicationSettings.canonical (settings : ReplicationSettings) :
    ReplicationSettings.shape.Canonical settings := by
  simp [ReplicationSettings.shape, SourceSettings.canonical, DestinationSettings.canonical]

theorem Bucket.canonical (bucket : Bucket) : Bucket.shape.Canonical bucket := by
  simp [Bucket.shape, ReplicationSettings.canonical]

theorem ApplicationKey.canonical {key : ApplicationKey}
    (unlisted : ∀ name, Capability.other name ∈ key.capabilities.items →
      ∀ known : KnownCapability, known.wireName ≠ name) :
    ApplicationKey.shape.Canonical key := by
  have rebuilt : CapabilitySet.ofList key.capabilities.items = key.capabilities :=
    Ascending.ofList_items key.capabilities
  have kept : ∀ capability ∈ key.capabilities.items, capabilityShape.Canonical capability := by
    intro capability member
    refine ⟨Capability.ofName_name ?_, trivial⟩
    rintro name rfl
    exact unlisted name member
  simpa [ApplicationKey.shape, rebuilt] using kept

end BucketReplication
