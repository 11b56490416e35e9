import BucketReplication.Key.Capability

/-! # Capabilities by name

Every known capability is found by its name, and every other name is kept. -/

namespace BucketReplication

namespace Capability

theorem mem_all (known : KnownCapability) : known ∈ KnownCapability.all := by
  cases known <;> decide

/-! The two tables of names undo each other: one law for each direction, by the
lines of the table that is read first. -/

theorem ofName_wireName (known : KnownCapability) : ofName known.wireName = .known known := by
  cases known <;> rfl

theorem name_ofName (name : String) : (ofName name).name = name := by
  unfold ofName
  split <;> rfl

theorem ofName_cases (name : String) :
    (∃ known : KnownCapability, known.wireName = name ∧ ofName name = .known known) ∨
      ((∀ known : KnownCapability, known.wireName ≠ name) ∧ ofName name = .other name) := by
  have named := name_ofName name
  cases found : ofName name with
  | known known =>
      rw [found] at named
      exact .inl ⟨known, named, rfl⟩
  | other kept =>
      rw [found] at named
      refine .inr ⟨fun known taken => ?_, congrArg Capability.other named⟩
      rw [← taken, ofName_wireName] at found
      cases found

theorem ofName_name {capability : Capability} (unlisted : ∀ name, capability = .other name →
    ∀ known : KnownCapability, known.wireName ≠ name) :
    ofName capability.name = capability := by
  cases capability with
  | known known => exact ofName_wireName known
  | other name =>
      rcases ofName_cases name with ⟨known, same, -⟩ | ⟨-, kept⟩
      · exact absurd same (unlisted name rfl known)
      · exact kept

theorem ofName_name_ofName (name : String) : ofName (ofName name).name = ofName name := by
  rw [name_ofName]

theorem ofName_injective : Function.Injective ofName :=
  Function.LeftInverse.injective name_ofName

def knownNames : List String :=
  ["listKeys", "writeKeys", "deleteKeys", "listBuckets", "listAllBucketNames", "readBuckets",
   "writeBuckets", "deleteBuckets", "readBucketRetentions", "writeBucketRetentions",
   "readBucketEncryption", "writeBucketEncryption", "readBucketReplications",
   "writeBucketReplications", "listFiles", "readFiles", "shareFiles", "writeFiles",
   "deleteFiles", "readFileLegalHolds", "writeFileLegalHolds", "readFileRetentions",
   "writeFileRetentions", "bypassGovernance"]

theorem wireNames_all : KnownCapability.all.map KnownCapability.wireName = knownNames := rfl

theorem mem_knownNames {name : String} :
    name ∈ knownNames ↔ ∃ known : KnownCapability, known.wireName = name := by
  rw [← wireNames_all, List.mem_map]
  constructor
  · rintro ⟨listed, -, named⟩
    exact ⟨listed, named⟩
  · rintro ⟨listed, named⟩
    exact ⟨listed, mem_all listed, named⟩

theorem knownNames_getElem? (known : KnownCapability) :
    knownNames[known.ctorIdx]? = some known.wireName := by
  cases known <;> rfl

/-- A capability is found by its name unless it is one that took the name of a known
one. -/
theorem ofName_name_iff (capability : Capability) :
    ofName capability.name = capability ↔ ∀ name ∈ knownNames, capability ≠ .other name := by
  constructor
  · rintro found name listed rfl
    rcases mem_knownNames.1 listed with ⟨known, rfl⟩
    rw [Capability.name, ofName_wireName] at found
    cases found
  · intro unlisted
    refine ofName_name fun name same known taken => ?_
    exact unlisted name (mem_knownNames.2 ⟨known, taken⟩) same

def isKnown : Capability → Bool
  | .known _ => true
  | .other _ => false

theorem isKnown_ofName (name : String) :
    (ofName name).isKnown = true ↔ name ∈ knownNames := by
  rw [mem_knownNames]
  rcases ofName_cases name with ⟨known, named, found⟩ | ⟨unlisted, kept⟩
  · rw [found]
    exact ⟨fun _ => ⟨known, named⟩, fun _ => rfl⟩
  · rw [kept]
    constructor
    · nofun
    · rintro ⟨known, named⟩
      exact absurd named (unlisted known)

theorem position_lt (known : KnownCapability) : known.position < KnownCapability.all.length := by
  cases known <;> decide

theorem rank_injective : Function.Injective rank := by
  intro first second same
  cases first with
  | known first =>
      cases second with
      | known second =>
          have equal : first.position = second.position := congrArg Rank.position same
          rw [← KnownCapability.ofNat_ctorIdx first, ← KnownCapability.ofNat_ctorIdx second]
          exact congrArg (Capability.known ∘ KnownCapability.ofNat) equal
      | other name =>
          have equal : first.position = KnownCapability.all.length := congrArg Rank.position same
          exact absurd equal (Nat.ne_of_lt (position_lt first))
  | other name =>
      cases second with
      | known second =>
          have equal : KnownCapability.all.length = second.position := congrArg Rank.position same
          exact absurd equal.symm (Nat.ne_of_lt (position_lt second))
      | other name' => exact congrArg Capability.other (congrArg Rank.name same)

end Capability

end BucketReplication
