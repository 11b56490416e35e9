import BucketReplication.Proofs.Document.Change
import BucketReplication.Proofs.Document.Records
import BucketReplication.Proofs.Json.Record
import BucketReplication.Proofs.Json.Spelling
import Mathlib.Logic.Relation

/-! # Texts that stand for the same record

A text that is accepted may be laid out differently, the members of its records may
stand in another order, members of unknown names may come in and members that hold
the default of their field may go: the record stays the same. A member without a
default may not go, and no known member may stand twice. -/

namespace BucketReplication

namespace Json

open Document

theorem Spells.read_eq {α : Type} {shape : Shape α} {tree : Value} {text : String}
    (spells : Spells tree text) : read shape text = shape.read .json tree := by
  rw [read, spells_iff.1 spells]
  cases shape.read .json tree <;> rfl

theorem exists_spells_of_read {α : Type} {shape : Shape α} {text : String} {record : α}
    (accepted : read shape text = .ok record) :
    ∃ tree, Spells tree text ∧ shape.read .json tree = .ok record := by
  rw [read] at accepted
  rcases bind_eq_ok accepted with ⟨stored, found, kept⟩
  split at kept
  · rename_i whole
    cases kept
    refine ⟨(treeOf text).value, spells_iff.2 ?_, found⟩
    rw [← whole]
  · cases kept

theorem spells_print {tree : Value} (plain : IsPlain tree) : Spells tree (print tree) :=
  spells_iff.2 (treeOf_print plain)

theorem read_restated {α : Type} {shape : Shape α} (lawful : shape.Lawful) {tree tree' : Value}
    {record : α} (restated : Relation.ReflTransGen shape.outline.Restatement tree tree')
    (accepted : shape.read .json tree = .ok record) : shape.read .json tree' = .ok record := by
  induction restated with
  | refl => exact accepted
  | tail _ restatement accepted =>
      have turns := shape.turns_read (acts_restates .json) lawful restatement
      exact (turns record accepted record).2 ⟨trivial, rfl⟩

theorem refused_of_spoiling {α : Type} {shape : Shape α} (lawful : shape.Lawful)
    {tree tree' : Value} {record : α} (spoiling : shape.outline.Spoiling tree tree')
    (accepted : shape.read .json tree = .ok record) :
    ∃ fault, shape.read .json tree' = .error fault :=
  (shape.turns_read (acts_spoils .json) lawful spoiling).refuses accepted

/-- What a tree stands for does not depend on its layout and not on how its records
are put, as long as nothing that is needed is missing and nothing stands twice. -/
structure StandsFor {α : Type} (shape : Shape α) (declared : List DeclaredMember) (tree : Value)
    (record : α) : Prop where
  respaced : ∀ text, Spells tree text → read shape text = .ok record
  restated : ∀ tree', Relation.ReflTransGen (Outline.record declared).Restatement tree tree' →
    ∀ text, Spells tree' text → read shape text = .ok record
  spoiled : ∀ tree', Relation.ReflTransGen (Outline.record declared).Restatement tree tree' →
    ∀ tree'', (Outline.record declared).Spoiling tree' tree'' →
      ∀ text, Spells tree'' text → ∃ fault, read shape text = .error fault

/-- Every text that is accepted spells a tree that stands for its record. -/
def Lenient {α : Type} (shape : Shape α) (declared : List DeclaredMember) : Prop :=
  ∀ text record, read shape text = .ok record →
    ∃ tree, Spells tree text ∧ StandsFor shape declared tree record

theorem lenient_of_lawful {α : Type} {shape : Shape α} {declared : List DeclaredMember}
    (lawful : shape.Lawful) (outlined : shape.outline = .record declared) :
    Lenient shape declared := by
  intro text record accepted
  rcases exists_spells_of_read accepted with ⟨tree, spells, found⟩
  refine ⟨tree, spells, ⟨?respaced, ?restated, ?spoiled⟩⟩
  case respaced =>
    intro text spells
    exact spells.read_eq.trans found
  case restated =>
    intro tree' restated text spells
    rw [← outlined] at restated
    exact spells.read_eq.trans (read_restated lawful restated found)
  case spoiled =>
    intro tree' restated tree'' spoiling text spells
    rw [← outlined] at restated spoiling
    rw [spells.read_eq]
    exact refused_of_spoiling lawful spoiling (read_restated lawful restated found)

end Json

/-! ## What the records declare

The members of each record by name, with the values that absent ones stand for. -/

section Declared

open Document (Outline DeclaredMember)

def Rule.declared : List DeclaredMember :=
  [⟨"replicationRuleName", none, .plain⟩,
   ⟨"priority", some (.number (some (.integer 128))), .plain⟩,
   ⟨"destinationBucketId", none, .plain⟩,
   ⟨"fileNamePrefix", some (.text (some "")), .plain⟩,
   ⟨"includeExistingFiles", some (.flag false), .plain⟩,
   ⟨"isEnabled", some (.flag true), .plain⟩]

def SourceSettings.declared : List DeclaredMember :=
  [⟨"sourceApplicationKeyId", some .null, .plain⟩,
   ⟨"replicationRules", some (.sequence .closed), .listOf (.record Rule.declared)⟩]

def DestinationSettings.declared : List DeclaredMember :=
  [⟨"sourceToDestinationKeyMapping", some (.record .closed), .plain⟩]

def ReplicationSettings.declared : List DeclaredMember :=
  [⟨"asReplicationSource", some .null, .record SourceSettings.declared⟩,
   ⟨"asReplicationDestination", some .null, .record DestinationSettings.declared⟩]

def Bucket.declared : List DeclaredMember :=
  [⟨"bucketId", none, .plain⟩,
   ⟨"bucketName", none, .plain⟩,
   ⟨"revision", none, .plain⟩,
   ⟨"replicationConfiguration", some .null, .record ReplicationSettings.declared⟩]

def ApplicationKey.declared : List DeclaredMember :=
  [⟨"applicationKeyId", none, .plain⟩,
   ⟨"keyName", none, .plain⟩,
   ⟨"bucketId", some .null, .plain⟩,
   ⟨"namePrefix", some .null, .plain⟩,
   ⟨"capabilities", some (.sequence .closed), .listOf .plain⟩]

theorem Rule.outline_shape : shape.outline = .record declared := rfl

theorem SourceSettings.outline_shape : shape.outline = .record declared := rfl

theorem DestinationSettings.outline_shape : shape.outline = .record declared := rfl

theorem ReplicationSettings.outline_shape : shape.outline = .record declared := rfl

theorem Bucket.outline_shape : shape.outline = .record declared := rfl

theorem ApplicationKey.outline_shape : shape.outline = .record declared := rfl

end Declared

namespace Json

open Document

/-- Sparse and reordered texts stand for the same record. -/
theorem records_read_leniently :
    Lenient Rule.shape Rule.declared ∧ Lenient SourceSettings.shape SourceSettings.declared ∧
      Lenient DestinationSettings.shape DestinationSettings.declared ∧
      Lenient ReplicationSettings.shape ReplicationSettings.declared ∧
      Lenient Bucket.shape Bucket.declared ∧
      Lenient ApplicationKey.shape ApplicationKey.declared :=
  ⟨lenient_of_lawful Rule.shape_lawful Rule.outline_shape,
    lenient_of_lawful SourceSettings.shape_lawful SourceSettings.outline_shape,
    lenient_of_lawful DestinationSettings.shape_lawful DestinationSettings.outline_shape,
    lenient_of_lawful ReplicationSettings.shape_lawful ReplicationSettings.outline_shape,
    lenient_of_lawful Bucket.shape_lawful Bucket.outline_shape,
    lenient_of_lawful ApplicationKey.shape_lawful ApplicationKey.outline_shape⟩

/-! ## A bucket and a key -/

theorem Lenient.of_print {α : Type} {shape : Shape α} {declared : List DeclaredMember}
    (lenient : Lenient shape declared) {tree : Value} (plain : IsPlain tree) {record : α}
    (accepted : shape.read .json tree = .ok record) : StandsFor shape declared tree record := by
  have spelled := spells_print plain
  rcases lenient _ _ (spelled.read_eq.trans accepted) with ⟨tree', spells, stands⟩
  obtain rfl : tree' = tree :=
    congrArg Tree.value ((spells_iff.1 spells).symm.trans (spells_iff.1 spelled))
  exact stands

def AreDefaults (declared : List DeclaredMember) (members : List (String × Value)) : Prop :=
  ∀ entry ∈ members, ∃ member ∈ declared, member.name = entry.1 ∧ member.default = some entry.2

theorem restated_needed {declared : List DeclaredMember} (needed : List (String × Value))
    {defaults : List (String × Value)} (held : AreDefaults declared defaults) :
    Relation.ReflTransGen (Restates declared) (needed ++ defaults) needed := by
  induction defaults with
  | nil => rw [List.append_nil]
  | cons entry rest induction =>
      obtain ⟨_, value⟩ := entry
      rcases held _ List.mem_cons_self with ⟨member, listed, rfl, replaceable⟩
      have others := induction fun entry later => held entry (List.mem_cons_of_mem _ later)
      exact others.head (.omitted needed rest listed replaceable)

/-- The members from the last to the first, behind one that no record knows. -/
def noted (members : List (String × Value)) : List (String × Value) :=
  ("note", .sequence (.ofList [.null])) :: members.reverse

theorem restated_noted {declared : List DeclaredMember} (needed : List (String × Value))
    {defaults : List (String × Value)} (held : AreDefaults declared defaults)
    (unknown : "note" ∉ declared.map DeclaredMember.name) :
    Relation.ReflTransGen (Restates declared) (needed ++ defaults) (noted needed) := by
  have reordered := (restated_needed needed held).tail (.permuted needed.reverse_perm.symm)
  exact reordered.tail (.extended [] _ unknown rfl)

theorem restated_record {declared : List DeclaredMember} {members members' : List (String × Value)}
    (restated : Relation.ReflTransGen (Restates declared) members members') :
    Relation.ReflTransGen (Outline.record declared).Restatement (.record (.ofList members))
      (.record (.ofList members')) :=
  restated.lift (fun members => Value.record (.ofList members)) fun _ _ changed => .record changed

def neededOfBucket : List (String × Value) :=
  [("bucketId", .text (some "b")), ("bucketName", .text (some "photos")),
    ("revision", .number (some (.integer 7)))]

def defaultsOfBucket : List (String × Value) :=
  [("replicationConfiguration", .null)]

def neededOfRule : List (String × Value) :=
  [("replicationRuleName", .text (some "r")), ("destinationBucketId", .text (some "d"))]

def defaultsOfRule : List (String × Value) :=
  [("priority", .number (some (.integer 128))), ("fileNamePrefix", .text (some "")),
    ("includeExistingFiles", .flag false), ("isEnabled", .flag true)]

def neededOfKey : List (String × Value) :=
  [("applicationKeyId", .text (some "k")), ("keyName", .text (some "n"))]

def defaultsOfKey : List (String × Value) :=
  [("bucketId", .null), ("namePrefix", .null), ("capabilities", .sequence .closed)]

def bucketOfRule (rule : List (String × Value)) : Value :=
  .record (.ofList (neededOfBucket ++ [("replicationConfiguration", .record (.ofList
    [("asReplicationSource", .record (.ofList
      [("replicationRules", .sequence (.ofList [.record (.ofList rule)]))]))]))]))

theorem within_bucketOfRule
    {change : List DeclaredMember → List (String × Value) → List (String × Value) → Prop}
    {rule rule' : List (String × Value)} (changed : change Rule.declared rule rule') :
    (Outline.record Bucket.declared).Within change (bucketOfRule rule) (bucketOfRule rule') := by
  refine .member neededOfBucket [] (.tail _ (.tail _ (.tail _ (.head _)))) ?_
  refine .member [] [] (.head _) ?_
  exact .member [] [] (.tail _ (.head _)) (.item [] [] (.record changed))

def ArePlain (members : List (String × Value)) : Prop :=
  ∀ member ∈ members, IsPlain member.2

theorem isPlain_record_iff {members : List (String × Value)} :
    IsPlain (.record (.ofList members)) ↔ ArePlain members := by
  rw [IsPlain, ArePlain]
  induction members with
  | nil => simp [Members.ofList, AreMembersPlain]
  | cons head tail induction => simp [Members.ofList, AreMembersPlain, induction]

theorem ArePlain.noted {members : List (String × Value)} (plain : ArePlain members) :
    ArePlain (noted members) := by
  have note : IsPlain (.sequence (.ofList [.null])) := ⟨trivial, trivial⟩
  simpa [ArePlain, Json.noted, note] using plain

theorem ArePlain.bucketOfRule {rule : List (String × Value)} (plain : ArePlain rule) :
    IsPlain (bucketOfRule rule) := by
  have settings := isPlain_record_iff.2 plain
  have revision : ∃ value : Nat, (7 : Int) = value ∧ value < Numeral.significandLimit :=
    ⟨7, rfl, by decide⟩
  simpa [Json.bucketOfRule, neededOfBucket, Members.ofList, Items.ofList, IsPlain, AreMembersPlain,
    AreItemsPlain, revision] using settings

/-- A bucket and a key are read with the needed members alone, in another order and
beside a note, and so is the rule of a bucket. Without the revision of the bucket,
without the name of the rule or with two names of the key there is nothing to read. -/
theorem records_read_leniently_sparse :
    (read Bucket.shape
        "\x7b\"note\":[null],\"revision\":7,\"bucketName\":\"photos\",\"bucketId\":\"b\"\x7d" =
          .ok ⟨"b", "photos", 7, none⟩ ∧
      ∃ fault, read Bucket.shape "\x7b\"bucketId\":\"b\",\"bucketName\":\"photos\"\x7d" =
        .error fault) ∧
    (read Bucket.shape (print (bucketOfRule (noted neededOfRule))) =
        .ok ⟨"b", "photos", 7, some ⟨some ⟨none, [Rule.new "r" "d"]⟩, none⟩⟩ ∧
      ∃ fault, read Bucket.shape (print (bucketOfRule (neededOfRule.tail ++ defaultsOfRule))) =
        .error fault) ∧
    read ApplicationKey.shape
        "\x7b\"note\":[null],\"keyName\":\"n\",\"applicationKeyId\":\"k\"\x7d" =
          .ok ⟨"k", "n", none, none, .ofList []⟩ ∧
      ∃ fault, read ApplicationKey.shape
        "\x7b\"note\":[null],\"keyName\":\"n\",\"applicationKeyId\":\"k\",\"keyName\":\"n\"\x7d" =
          .error fault := by
  rcases records_read_leniently with ⟨-, -, -, -, ofBucket, ofKey⟩
  refine ⟨?bucket, ?replicated, ?key⟩
  case bucket =>
    have plain : ArePlain (neededOfBucket ++ defaultsOfBucket) :=
      isPlain_record_iff.1 (isPlain_write Bucket.shape Bucket.shape_lawful ⟨"b", "photos", 7, none⟩)
    have accepted : Bucket.shape.read .json
        (.record (.ofList (neededOfBucket ++ defaultsOfBucket))) =
          .ok ⟨"b", "photos", 7, none⟩ := rfl
    have stands := ofBucket.of_print (isPlain_record_iff.2 plain) accepted
    have plainNeeded : ArePlain neededOfBucket := (List.forall_mem_append.1 plain).1
    have held : AreDefaults Bucket.declared defaultsOfBucket := by
      simp [AreDefaults, defaultsOfBucket, Bucket.declared]
    constructor
    · have restated := restated_record (restated_noted neededOfBucket held (by decide))
      exact stands.restated _ restated _ (spells_print (isPlain_record_iff.2 plainNeeded.noted))
    · have restated := restated_record (restated_needed neededOfBucket held)
      have spoiled : Spoils Bucket.declared neededOfBucket (neededOfBucket.take 2) :=
        .removed [_, _] [] (.tail _ (.tail _ (.head _))) rfl
      have unrevised : ArePlain (neededOfBucket.take 2) := fun member listed =>
        plainNeeded member (List.mem_of_mem_take listed)
      exact stands.spoiled _ restated _ (.record spoiled) _
        (spells_print (isPlain_record_iff.2 unrevised))
  case replicated =>
    have plainDefaults : IsPlain (.record (.ofList defaultsOfRule)) :=
      ⟨⟨_, rfl⟩, ⟨128, rfl, by decide⟩, ⟨_, rfl⟩, ⟨_, rfl⟩, ⟨_, rfl⟩, trivial, ⟨_, rfl⟩, trivial,
        trivial⟩
    have plain : ArePlain (neededOfRule ++ defaultsOfRule) :=
      isPlain_record_iff.1 ⟨⟨_, rfl⟩, ⟨_, rfl⟩, ⟨_, rfl⟩, ⟨_, rfl⟩, plainDefaults⟩
    have accepted : Bucket.shape.read .json (bucketOfRule (neededOfRule ++ defaultsOfRule)) =
        .ok ⟨"b", "photos", 7, some ⟨some ⟨none, [Rule.new "r" "d"]⟩, none⟩⟩ := rfl
    have stands := ofBucket.of_print plain.bucketOfRule accepted
    have plainNeeded : ArePlain neededOfRule := (List.forall_mem_append.1 plain).1
    have held : AreDefaults Rule.declared defaultsOfRule := by
      simp [AreDefaults, defaultsOfRule, Rule.declared]
    constructor
    · have restated := (restated_noted neededOfRule held (by decide)).lift bucketOfRule
        fun _ _ => within_bucketOfRule
      exact stands.restated _ restated _ (spells_print plainNeeded.noted.bucketOfRule)
    · have spoiled : Spoils Rule.declared (neededOfRule ++ defaultsOfRule)
          (neededOfRule.tail ++ defaultsOfRule) :=
        .removed [] _ (.head _) rfl
      have nameless : ArePlain (neededOfRule.tail ++ defaultsOfRule) := fun member listed =>
        plain member (List.mem_cons_of_mem _ listed)
      exact stands.spoiled _ .refl _ (within_bucketOfRule spoiled) _
        (spells_print nameless.bucketOfRule)
  case key =>
    have plain : ArePlain (neededOfKey ++ defaultsOfKey) :=
      isPlain_record_iff.1 (isPlain_write ApplicationKey.shape ApplicationKey.shape_lawful
        ⟨"k", "n", none, none, .ofList []⟩)
    have accepted : ApplicationKey.shape.read .json
        (.record (.ofList (neededOfKey ++ defaultsOfKey))) =
          .ok ⟨"k", "n", none, none, .ofList []⟩ := rfl
    have stands := ofKey.of_print (isPlain_record_iff.2 plain) accepted
    have plainNeeded : ArePlain neededOfKey := (List.forall_mem_append.1 plain).1
    have held : AreDefaults ApplicationKey.declared defaultsOfKey := by
      simp [AreDefaults, defaultsOfKey, ApplicationKey.declared]
    have restated := restated_record (restated_noted neededOfKey held (by decide))
    constructor
    · exact stands.restated _ restated _ (spells_print (isPlain_record_iff.2 plainNeeded.noted))
    · have spoiled : Spoils ApplicationKey.declared (noted neededOfKey)
          (noted (("keyName", .text (some "n")) :: neededOfKey)) :=
        .repeated (noted neededOfKey) [] (.tail _ (.head _)) (.tail _ (.head _))
      have keyName : IsPlain (.text (some "n")) := ⟨_, rfl⟩
      have twoNames : ArePlain (("keyName", .text (some "n")) :: neededOfKey) :=
        List.forall_mem_cons.2 ⟨keyName, plainNeeded⟩
      exact stands.spoiled _ restated _ (.record spoiled) _
        (spells_print (isPlain_record_iff.2 twoNames.noted))

end Json

end BucketReplication
