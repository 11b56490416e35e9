import BucketReplication.Json.Record
import BucketReplication.Proofs.Document.Records
import BucketReplication.Proofs.Json.Tree

/-! # Records survive their text

What is written for a record is read as the same record. So the text of a record
has a normal form: reading it and writing it again changes it once at most. -/

namespace BucketReplication

namespace Json

open Document

theorem areItemsPlain_ofList {α : Type} {write : α → Value} {values : List α}
    (plain : ∀ value ∈ values, IsPlain (write value)) :
    AreItemsPlain (.ofList (values.map write)) := by
  induction values with
  | nil => trivial
  | cons head tail induction =>
      exact ⟨plain head List.mem_cons_self,
        induction fun value inTail => plain value (List.mem_cons_of_mem head inTail)⟩

theorem areMembersPlain_ofList (entries : List (String × String)) :
    AreMembersPlain
      (.ofList (entries.map fun (name, content) => (name, .text (some content)))) := by
  induction entries with
  | nil => trivial
  | cons entry tail induction =>
      exact ⟨⟨entry.1, rfl⟩, by simp [IsPlain], induction⟩

mutual
theorem isPlain_write : {α : Type} → (shape : Shape α) → shape.Lawful → (value : α) →
    IsPlain (shape.write value)
  | _, .text, _, content => by simp [Shape.write, IsPlain]
  | _, .flag, _, isSet => by simp [Shape.write, IsPlain]
  | _, .natural range, lawful, value => by
      have fits := Nat.lt_of_lt_of_le (range.toNat_lt value) lawful
      rw [Shape.write, IsPlain]
      exact ⟨_, rfl, fits⟩
  | _, .choice _ _, _, _ => by simp [Shape.write, IsPlain]
  | _, .optional _, _, none => by simp [Shape.write, IsPlain]
  | _, .optional inner, lawful, some stored => by
      rw [Shape.write]
      exact isPlain_write inner lawful.2 stored
  | _, .sequence inner, lawful, values => by
      rw [Shape.write, IsPlain]
      exact areItemsPlain_ofList fun stored _ => isPlain_write inner lawful stored
  | _, .mapping, _, entries => by
      rw [Shape.write, IsPlain]
      exact areMembersPlain_ofList entries
  | _, .record _ fields, lawful, value => by
      rw [Shape.write, IsPlain]
      exact areMembersPlain_write fields lawful value
  | _, .converted inner _ parts, lawful, value => by
      rw [Shape.write]
      exact isPlain_write inner lawful.1 (parts value)

theorem areMembersPlain_write : {α δ : Type} → (fields : Fields α δ) → fields.Lawful →
    (value : α) → AreMembersPlain (fields.write value)
  | _, _, .done, _, _ => by simp [Fields.write, AreMembersPlain]
  | _, _, .field name shape _ rest, lawful, (value, others) => by
      rw [Fields.write, AreMembersPlain]
      exact ⟨⟨name, rfl⟩, isPlain_write shape lawful.2.1 value,
        areMembersPlain_write rest lawful.2.2.2 others⟩
end

theorem read_write {α : Type} {shape : Shape α} (lawful : shape.Lawful) {value : α}
    (canonical : shape.Canonical value) : read shape (write shape value) = .ok value := by
  have tree := treeOf_print (isPlain_write shape lawful value)
  have returns := shape.read_write .json lawful value canonical
  rw [read, write, tree]
  simp only [returns, ok_bind, if_true]
  rfl

theorem canonical_of_read {α : Type} {shape : Shape α} (lawful : shape.Lawful) {text : String}
    {value : α} (succeeded : read shape text = .ok value) : shape.Canonical value := by
  rcases bind_eq_ok succeeded with ⟨stored, found, succeeded⟩
  split at succeeded
  · cases succeeded
    exact shape.canonical_of_read .json lawful found
  · cases succeeded

def normalised {α : Type} (shape : Shape α) (text : String) : Except ReadFault String :=
  write shape <$> read shape text

/-- Every text that is accepted has a normal form, which stands for the same value
and is its own normal form. -/
def Normalises {α : Type} (shape : Shape α) : Prop :=
  ∀ text value, read shape text = .ok value →
    ∃ normal, normalised shape text = .ok normal ∧ read shape normal = .ok value ∧
      normalised shape normal = .ok normal

theorem normalises_of_lawful {α : Type} {shape : Shape α} (lawful : shape.Lawful) :
    Normalises shape := by
  intro text value succeeded
  have returns := read_write lawful (canonical_of_read lawful succeeded)
  refine ⟨write shape value, ?_, returns, ?_⟩
  · rw [normalised, succeeded, ok_map]
  · rw [normalised, returns, ok_map]

/-- Every record is read back from the text that is written for it, keys that hold
a capability under the name of a known one left aside; and normal forms are
stable. -/
theorem records_survive_text :
    (∀ rule : Rule, read Rule.shape (write Rule.shape rule) = .ok rule) ∧
    (∀ settings : SourceSettings,
      read SourceSettings.shape (write SourceSettings.shape settings) = .ok settings) ∧
    (∀ settings : DestinationSettings,
      read DestinationSettings.shape (write DestinationSettings.shape settings) = .ok settings) ∧
    (∀ settings : ReplicationSettings,
      read ReplicationSettings.shape (write ReplicationSettings.shape settings) = .ok settings) ∧
    (∀ bucket : Bucket, read Bucket.shape (write Bucket.shape bucket) = .ok bucket) ∧
    (∀ key : ApplicationKey,
      (∀ name, Capability.other name ∈ key.capabilities.items →
        ∀ known : KnownCapability, known.wireName ≠ name) →
      read ApplicationKey.shape (write ApplicationKey.shape key) = .ok key) ∧
    Normalises Rule.shape ∧ Normalises SourceSettings.shape ∧
    Normalises DestinationSettings.shape ∧ Normalises ReplicationSettings.shape ∧
    Normalises Bucket.shape ∧ Normalises ApplicationKey.shape :=
  ⟨fun rule => read_write Rule.shape_lawful rule.canonical,
    fun settings => read_write SourceSettings.shape_lawful settings.canonical,
    fun settings => read_write DestinationSettings.shape_lawful settings.canonical,
    fun settings => read_write ReplicationSettings.shape_lawful settings.canonical,
    fun bucket => read_write Bucket.shape_lawful bucket.canonical,
    fun _ unlisted =>
      read_write ApplicationKey.shape_lawful (ApplicationKey.canonical unlisted),
    normalises_of_lawful Rule.shape_lawful,
    normalises_of_lawful SourceSettings.shape_lawful,
    normalises_of_lawful DestinationSettings.shape_lawful,
    normalises_of_lawful ReplicationSettings.shape_lawful,
    normalises_of_lawful Bucket.shape_lawful,
    normalises_of_lawful ApplicationKey.shape_lawful⟩

def guestKey : ApplicationKey where
  id := "K\"0\\1"
  name := "line\nbreak and \x01"
  bucketId := some ""
  fileNameStart := none
  capabilities := .ofList [.other "fly\x1f", .known .writeFiles, .known .listKeys]

def reorderedRule : Value :=
  .record (.ofList
    [("destinationBucketId", .text (some "b")), ("comment", .null),
     ("isEnabled", .flag false), ("replicationRuleName", .text (some "r"))])

theorem records_survive_text_guestKey :
    (∀ name, Capability.other name ∈ guestKey.capabilities.items →
      ∀ known : KnownCapability, known.wireName ≠ name) ∧
    read ApplicationKey.shape (write ApplicationKey.shape guestKey) = .ok guestKey ∧
    read Rule.shape (print reorderedRule) = .ok { Rule.new "r" "b" with isEnabled := false } ∧
    ∃ normal, normalised Rule.shape (print reorderedRule) = .ok normal ∧
      read Rule.shape normal = .ok { Rule.new "r" "b" with isEnabled := false } ∧
      normalised Rule.shape normal = .ok normal := by
  have unlisted : ∀ name, Capability.other name ∈ guestKey.capabilities.items →
      ∀ known : KnownCapability, known.wireName ≠ name := by
    have items : guestKey.capabilities.items =
        [.known .listKeys, .known .writeFiles, .other "fly\x1f"] := by decide
    intro name member known
    simp only [items, List.mem_cons, reduceCtorEq, Capability.other.injEq, List.not_mem_nil,
      or_false, false_or] at member
    subst member
    cases known <;> decide
  have accepted : read Rule.shape (print reorderedRule) =
      .ok { Rule.new "r" "b" with isEnabled := false } := by
    have plain : IsPlain reorderedRule := by
      simp [reorderedRule, Members.ofList, IsPlain, AreMembersPlain]
    rw [read, treeOf_print plain]
    rfl
  rcases records_survive_text with ⟨-, -, -, -, -, ofKey, ofRule, -⟩
  exact ⟨unlisted, ofKey guestKey unlisted, accepted, ofRule _ _ accepted⟩

end Json

end BucketReplication
