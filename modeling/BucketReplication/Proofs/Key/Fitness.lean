import BucketReplication.Proofs.Json.Record
import BucketReplication.Proofs.Text.Bytes

/-! # Fitness of a key by the names of its capabilities

A key is read from a list of names and is asked for other names. Only which names
there are matters: not their order, not how often they occur, and not which of
them are known. Written again they stand in one canonical order. -/

namespace BucketReplication

namespace CapabilitySet

def ofNames (names : List String) : CapabilitySet :=
  ofList (names.map Capability.ofName)

def names (held : CapabilitySet) : List String :=
  held.items.map Capability.name

theorem mem_items_ofNames {capability : Capability} {names : List String} :
    capability ∈ (ofNames names).items ↔ ∃ name ∈ names, Capability.ofName name = capability := by
  rw [ofNames, ofList, Ascending.mem_ofList_iff Capability.rank_injective, List.mem_map]

theorem ofName_mem_items {name : String} {names : List String} :
    Capability.ofName name ∈ (ofNames names).items ↔ name ∈ names := by
  rw [mem_items_ofNames]
  constructor
  · rintro ⟨other, listed, same⟩
    exact Capability.ofName_injective same ▸ listed
  · exact fun listed => ⟨name, listed, rfl⟩

theorem mem_names_ofNames {name : String} {held : List String} :
    name ∈ (ofNames held).names ↔ name ∈ held := by
  rw [names, List.mem_map]
  constructor
  · rintro ⟨capability, member, rfl⟩
    rcases mem_items_ofNames.1 member with ⟨name, listed, rfl⟩
    rwa [Capability.name_ofName]
  · exact fun listed => ⟨_, ofName_mem_items.2 listed, Capability.name_ofName name⟩

theorem holdsAll_ofNames (held required : List String) :
    (ofNames held).holdsAll (required.map Capability.ofName) = true ↔
      ∀ name ∈ required, name ∈ held := by
  simp [holdsAll, ofName_mem_items]

theorem ofNames_eq_iff (held other : List String) :
    ofNames held = ofNames other ↔ ∀ name, name ∈ held ↔ name ∈ other := by
  constructor
  · intro same name
    rw [← mem_names_ofNames, same, mem_names_ofNames]
  · intro same
    apply Ascending.ext
    apply Ascending.eq_of_mem_iff (ofNames held).ordered (ofNames other).ordered
    simp only [mem_items_ofNames, same, implies_true]

/-! ## The canonical order -/

theorem items_ofNames (held : List String) :
    (ofNames held).items =
      (KnownCapability.all.filter fun known => held.contains known.wireName).map .known ++
        (ofNames held).items.filter fun capability => !capability.isKnown := by
  apply Ascending.eq_of_mem_iff (ofNames held).ordered
  · refine List.pairwise_append.2 ⟨?known, (ofNames held).ordered.filter _, ?apart⟩
    case known =>
      have ordered : KnownCapability.all.Pairwise fun earlier later =>
          earlier.position < later.position := by decide
      exact List.pairwise_map.2 ((ordered.filter _).imp fun lower => .inl lower)
    case apart =>
      intro earlier first later second
      rcases List.mem_map.1 first with ⟨known, -, rfl⟩
      rcases List.mem_filter.1 second with ⟨-, unknown⟩
      cases later with
      | known => simp [Capability.isKnown] at unknown
      | other name => exact .inl (Capability.position_lt known)
  · intro capability
    rw [List.mem_append, List.mem_filter]
    cases capability with
    | known known =>
        have member : .known known ∈ (ofNames held).items ↔ known.wireName ∈ held := by
          rw [← Capability.ofName_wireName, ofName_mem_items]
        simp [member, Capability.isKnown, Capability.mem_all]
    | other name => simp [Capability.isKnown]

theorem names_ofNames (held : List String) :
    ∃ unknown, (ofNames held).names =
        Capability.knownNames.filter (held.contains ·) ++ unknown ∧
      (unknown.Pairwise fun earlier later => Text.bytes earlier < Text.bytes later) ∧
      ∀ name, name ∈ unknown ↔ name ∈ held ∧ name ∉ Capability.knownNames := by
  refine ⟨((ofNames held).items.filter fun capability => !capability.isKnown).map
    Capability.name, ?split, ?ordered, ?members⟩
  case split =>
    conv_lhs => rw [names, items_ofNames, List.map_append, List.map_map]
    rw [← Capability.wireNames_all, List.filter_map]
    rfl
  case ordered =>
    refine List.pairwise_map.2 (((ofNames held).ordered.filter _).imp_of_mem ?_)
    intro earlier later first second lower
    cases earlier with
    | known => simp [Capability.isKnown] at first
    | other earlier =>
        cases later with
        | known => simp [Capability.isKnown] at second
        | other later =>
            rcases Capability.Rank.lt_iff.1 lower with before | ⟨-, before⟩
            · exact absurd before (Nat.lt_irrefl _)
            · exact (Text.bytes_lt_iff earlier later).2 before
  case members =>
    intro name
    rw [← Capability.isKnown_ofName, List.mem_map]
    constructor
    · rintro ⟨capability, member, rfl⟩
      rcases List.mem_filter.1 member with ⟨member, unknown⟩
      rcases mem_items_ofNames.1 member with ⟨name, listed, rfl⟩
      rw [Capability.name_ofName]
      exact ⟨listed, by simpa using unknown⟩
    · rintro ⟨listed, unknown⟩
      exact ⟨_, List.mem_filter.2 ⟨ofName_mem_items.2 listed, by simpa using unknown⟩,
        Capability.name_ofName name⟩

end CapabilitySet

namespace ApplicationKey

open Document

def document (key : ApplicationKey) (names : List String) : Value :=
  .record (.ofList
    [("applicationKeyId", .text (some key.id)),
     ("keyName", .text (some key.name)),
     ("bucketId", (Shape.optional .text).write key.bucketId),
     ("namePrefix", (Shape.optional .text).write key.fileNameStart),
     ("capabilities", .sequence (.ofList (names.map fun name => .text (some name))))])

theorem write_eq_document (key : ApplicationKey) :
    shape.write key = key.document key.capabilities.names := by
  have written : capabilityShape.write = fun capability => .text (some capability.name) := by
    funext capability
    simp [capabilityShape, Shape.write]
  simp [shape, Shape.write, Fields.write, document, Members.ofList, written,
    CapabilitySet.names, Function.comp_def]

theorem isPlain_document (key : ApplicationKey) (names : List String) :
    Json.IsPlain (key.document names) := by
  have ofOptional : ∀ content : Option String,
      Json.IsPlain ((Shape.optional .text).write content) :=
    Json.isPlain_write (.optional .text) ⟨rfl, trivial⟩
  have ofNames : Json.AreItemsPlain (.ofList (names.map fun name => .text (some name))) :=
    Json.areItemsPlain_ofList (by simp [Json.IsPlain])
  simp [document, Members.ofList, Json.IsPlain, Json.AreMembersPlain, ofOptional, ofNames]

theorem read_document (key : ApplicationKey) (names : List String) :
    Json.read shape (Json.print (key.document names)) =
      .ok { key with capabilities := .ofNames names } := by
  have canonical : ∀ capability ∈ names.map Capability.ofName,
      capabilityShape.Canonical capability := by
    intro capability listed
    rcases List.mem_map.1 listed with ⟨name, -, rfl⟩
    exact ⟨Capability.ofName_name_ofName name, trivial⟩
  -- The document is what the listed capabilities are written as, before they are put in order.
  have returns := Shape.read_write .json _ shape_lawful.1
    (key.id, key.name, key.bucketId, key.fileNameStart, names.map Capability.ofName, ())
    ⟨trivial, trivial, by simp, by simp, canonical, trivial⟩
  have written : (names.map Capability.ofName).map capabilityShape.write =
      names.map fun name => .text (some name) := by
    simp [capabilityShape, Shape.write, Capability.name_ofName]
  simp only [Shape.write, Fields.write, written] at returns
  rw [Json.read, Json.treeOf_print (key.isPlain_document names), shape, Shape.read]
  simp only [document, Members.ofList, Shape.write]
  rw [returns]
  rfl

/-- Whether a key that was read with some names has the capabilities of others is
decided by the names alone. The key is written with its names once each and in one
order, the known ones as they are declared and the others by their bytes, so what
is written tells which names were read and no more. -/
theorem fitness_by_names (key : ApplicationKey) (held required : List String) :
    let stated := { key with capabilities := CapabilitySet.ofNames held }
    Json.read shape (Json.print (key.document held)) = .ok stated ∧
    (stated.hasCapabilities (required.map Capability.ofName) = true ↔
      ∀ name ∈ required, name ∈ held) ∧
    (∀ name, (Capability.ofName name).name = name) ∧
    (∀ capability : Capability, Capability.ofName capability.name = capability ↔
      ∀ name ∈ Capability.knownNames, capability ≠ .other name) ∧
    (∀ known : KnownCapability,
      Capability.knownNames[known.ctorIdx]? = some known.wireName) ∧
    (∃ unknown,
      Json.write shape stated = Json.print (key.document
        (Capability.knownNames.filter (held.contains ·) ++ unknown)) ∧
      (unknown.Pairwise fun earlier later => Text.bytes earlier < Text.bytes later) ∧
      ∀ name, name ∈ unknown ↔ name ∈ held ∧ name ∉ Capability.knownNames) ∧
    ∀ other, stated.capabilities.names = (CapabilitySet.ofNames other).names ↔
      ∀ name, name ∈ held ↔ name ∈ other := by
  intro stated
  refine ⟨key.read_document held, CapabilitySet.holdsAll_ofNames held required,
    Capability.name_ofName, Capability.ofName_name_iff, Capability.knownNames_getElem?,
    ?written, ?same⟩
  case written =>
    rcases CapabilitySet.names_ofNames held with ⟨unknown, names, ordered, members⟩
    refine ⟨unknown, ?_, ordered, members⟩
    have listed : shape.write stated = key.document stated.capabilities.names :=
      stated.write_eq_document
    rw [Json.write, listed, names]
  case same =>
    intro other
    constructor
    · intro same name
      rw [← CapabilitySet.mem_names_ofNames, same, CapabilitySet.mem_names_ofNames]
    · intro same
      exact congrArg CapabilitySet.names ((CapabilitySet.ofNames_eq_iff held other).2 same)

end ApplicationKey

end BucketReplication
