import BucketReplication.Order.Ascending
import BucketReplication.Text.Quoted

/-! # Capabilities

The permissions that an application key can hold. A capability travels by its
name; a name that is not among the known ones is kept as it is. -/

namespace BucketReplication

inductive KnownCapability where
  | listKeys
  | writeKeys
  | deleteKeys
  | listBuckets
  | listAllBucketNames
  | readBuckets
  | writeBuckets
  | deleteBuckets
  | readBucketRetentions
  | writeBucketRetentions
  | readBucketEncryption
  | writeBucketEncryption
  | readBucketReplications
  | writeBucketReplications
  | listFiles
  | readFiles
  | shareFiles
  | writeFiles
  | deleteFiles
  | readFileLegalHolds
  | writeFileLegalHolds
  | readFileRetentions
  | writeFileRetentions
  | bypassGovernance
deriving DecidableEq, Repr

namespace KnownCapability

def all : List KnownCapability :=
  [.listKeys, .writeKeys, .deleteKeys, .listBuckets, .listAllBucketNames, .readBuckets,
   .writeBuckets, .deleteBuckets, .readBucketRetentions, .writeBucketRetentions,
   .readBucketEncryption, .writeBucketEncryption, .readBucketReplications,
   .writeBucketReplications, .listFiles, .readFiles, .shareFiles, .writeFiles, .deleteFiles,
   .readFileLegalHolds, .writeFileLegalHolds, .readFileRetentions, .writeFileRetentions,
   .bypassGovernance]

def wireName : KnownCapability → String
  | .listKeys => "listKeys"
  | .writeKeys => "writeKeys"
  | .deleteKeys => "deleteKeys"
  | .listBuckets => "listBuckets"
  | .listAllBucketNames => "listAllBucketNames"
  | .readBuckets => "readBuckets"
  | .writeBuckets => "writeBuckets"
  | .deleteBuckets => "deleteBuckets"
  | .readBucketRetentions => "readBucketRetentions"
  | .writeBucketRetentions => "writeBucketRetentions"
  | .readBucketEncryption => "readBucketEncryption"
  | .writeBucketEncryption => "writeBucketEncryption"
  | .readBucketReplications => "readBucketReplications"
  | .writeBucketReplications => "writeBucketReplications"
  | .listFiles => "listFiles"
  | .readFiles => "readFiles"
  | .shareFiles => "shareFiles"
  | .writeFiles => "writeFiles"
  | .deleteFiles => "deleteFiles"
  | .readFileLegalHolds => "readFileLegalHolds"
  | .writeFileLegalHolds => "writeFileLegalHolds"
  | .readFileRetentions => "readFileRetentions"
  | .writeFileRetentions => "writeFileRetentions"
  | .bypassGovernance => "bypassGovernance"

def position (capability : KnownCapability) : Nat :=
  capability.ctorIdx

def variantName (capability : KnownCapability) : String :=
  match capability.wireName.toList with
  | [] => ""
  | first :: rest => String.ofList (first.toUpper :: rest)

end KnownCapability

inductive Capability where
  | known (capability : KnownCapability)
  | other (name : String)
deriving DecidableEq, Repr

namespace Capability

/-- The capability with a wire name. Every name has one. -/
def ofName : String → Capability
  | "listKeys" => .known .listKeys
  | "writeKeys" => .known .writeKeys
  | "deleteKeys" => .known .deleteKeys
  | "listBuckets" => .known .listBuckets
  | "listAllBucketNames" => .known .listAllBucketNames
  | "readBuckets" => .known .readBuckets
  | "writeBuckets" => .known .writeBuckets
  | "deleteBuckets" => .known .deleteBuckets
  | "readBucketRetentions" => .known .readBucketRetentions
  | "writeBucketRetentions" => .known .writeBucketRetentions
  | "readBucketEncryption" => .known .readBucketEncryption
  | "writeBucketEncryption" => .known .writeBucketEncryption
  | "readBucketReplications" => .known .readBucketReplications
  | "writeBucketReplications" => .known .writeBucketReplications
  | "listFiles" => .known .listFiles
  | "readFiles" => .known .readFiles
  | "shareFiles" => .known .shareFiles
  | "writeFiles" => .known .writeFiles
  | "deleteFiles" => .known .deleteFiles
  | "readFileLegalHolds" => .known .readFileLegalHolds
  | "writeFileLegalHolds" => .known .writeFileLegalHolds
  | "readFileRetentions" => .known .readFileRetentions
  | "writeFileRetentions" => .known .writeFileRetentions
  | "bypassGovernance" => .known .bypassGovernance
  | name => .other name

def name : Capability → String
  | .known capability => capability.wireName
  | .other name => name

/-- A place in the canonical order. Of two places with the same position the one
with the lower name comes first, by code points. -/
structure Rank where
  position : Nat
  name : String
deriving DecidableEq, Repr

namespace Rank

instance : LT Rank where
  lt first second :=
    first.position < second.position ∨
      (first.position = second.position ∧ first.name < second.name)

instance : DecidableLT Rank := fun first second =>
  inferInstanceAs (Decidable (first.position < second.position ∨
    (first.position = second.position ∧ first.name < second.name)))

theorem lt_iff {first second : Rank} :
    first < second ↔ first.position < second.position ∨
      (first.position = second.position ∧ first.name < second.name) := Iff.rfl

instance : KeyOrder Rank where
  irrefl := by
    intro rank before
    rcases lt_iff.1 before with lower | ⟨_, earlier⟩
    · exact Nat.lt_irrefl _ lower
    · exact KeyOrder.irrefl _ earlier
  trans := by
    intro first second third before after
    rw [lt_iff] at before after ⊢
    rcases before with lower | ⟨same, earlier⟩
    · rcases after with lower' | ⟨same', _⟩
      · exact .inl (Nat.lt_trans lower lower')
      · exact .inl (same' ▸ lower)
    · rcases after with lower' | ⟨same', earlier'⟩
      · exact .inl (same ▸ lower')
      · exact .inr ⟨same.trans same', KeyOrder.trans earlier earlier'⟩
  trichotomy := by
    intro first second
    rw [lt_iff, lt_iff]
    rcases Nat.lt_trichotomy first.position second.position with lower | same | higher
    · exact .inl (.inl lower)
    · rcases KeyOrder.trichotomy first.name second.name with earlier | sameName | later
      · exact .inl (.inr ⟨same, earlier⟩)
      · refine .inr (.inl ?_)
        cases first; cases second; simp_all
      · exact .inr (.inr (.inr ⟨same.symm, later⟩))
    · exact .inr (.inr (.inl higher))

end Rank

/-- Known capabilities come first in their own order; all others follow by their
names. -/
def rank : Capability → Rank
  | .known capability => ⟨capability.position, ""⟩
  | .other name => ⟨KnownCapability.all.length, name⟩

def display : Capability → String
  | .known capability => capability.variantName
  | .other name => "Other(" ++ Text.quoted name ++ ")"

end Capability

abbrev CapabilitySet := Ascending Capability.rank

namespace CapabilitySet

def ofList (capabilities : List Capability) : CapabilitySet :=
  Ascending.ofList Capability.rank capabilities

def holdsAll (held : CapabilitySet) (required : List Capability) : Bool :=
  required.all fun capability => held.items.contains capability

def display (held : CapabilitySet) : String :=
  "\x7b" ++ ", ".intercalate (held.items.map Capability.display) ++ "\x7d"

end CapabilitySet

end BucketReplication
