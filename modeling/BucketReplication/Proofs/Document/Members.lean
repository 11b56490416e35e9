import BucketReplication.Proofs.Document.RoundTrip
import Mathlib.Tactic.Tauto

/-! # Records from members in any order

What a record of named members is read as does not depend on their order: every
field is settled by the one member that has its name or, without one, by its
default, and members with other names must merely be complete. -/

namespace BucketReplication.Document

theorem bind_eq_ok_iff {ε α β : Type} {first : Except ε α} {next : α → Except ε β} {value : β} :
    first >>= next = .ok value ↔ ∃ passed, first = .ok passed ∧ next passed = .ok value :=
  ⟨bind_eq_ok, fun ⟨passed, found, succeeded⟩ => by rw [found, ok_bind, succeeded]⟩

theorem map_eq_ok_iff {ε α β : Type} {first : Except ε α} {change : α → β} {value : β} :
    change <$> first = .ok value ↔ ∃ passed, first = .ok passed ∧ change passed = value :=
  ⟨map_eq_ok, fun ⟨passed, found, same⟩ => by rw [found, ok_map, same]⟩

namespace Fields

variable (format : Format)

/-- Members that are read as a record: no field stands twice, and what belongs to no
field is complete. -/
structure Admits {α δ : Type} (fields : Fields α δ) (members : List (String × Value)) : Prop where
  once : ∀ name ∈ fields.names, (members.map Prod.fst).count name ≤ 1
  passed : ∀ member ∈ members, member.1 ∉ fields.names → member.2.isComplete = true

/-- Every field has the value of a member with its name, or its default if there is
no such member. -/
def Settles : {α δ : Type} → Fields α δ → List (String × Value) → α → Prop
  | _, _, .done, _, _ => True
  | _, _, .field name shape default rest, members, (value, others) =>
    ((∃ stored, (name, stored) ∈ members ∧ shape.read format stored = .ok value) ∨
      (name ∉ members.map Prod.fst ∧ default = some value)) ∧
    rest.Settles members others

/-- Members of a name, with the value that the field already has. -/
def Meets {α : Type} (shape : Shape α) (name : String) (members : List (String × Value))
    (met met' : Option α) : Prop :=
  (name ∉ members.map Prod.fst ∧ met' = met) ∨
    (met = none ∧ (members.map Prod.fst).count name = 1 ∧
      ∃ stored value, (name, stored) ∈ members ∧ shape.read format stored = .ok value ∧
        met' = some value)

def beyond (name : String) (members : List (String × Value)) : List (String × Value) :=
  members.filter fun member => member.1 ≠ name

variable {format} {α β δ : Type} {name : String} {shape : Shape α} {default : Option α}
  {rest : Fields β δ}

theorem meets_cons_other {other : String} (different : other ≠ name) (value : Value)
    (members : List (String × Value)) (met met' : Option α) :
    Meets format shape name ((other, value) :: members) met met' ↔
      Meets format shape name members met met' := by
  simp [Meets, different, Ne.symm different]

theorem meets_some {stored : α} {members : List (String × Value)} {met' : Option α} :
    Meets format shape name members (some stored) met' ↔
      name ∉ members.map Prod.fst ∧ met' = some stored := by
  simp [Meets]

theorem meets_cons_same (value : Value) (members : List (String × Value)) (met' : Option α) :
    Meets format shape name ((name, value) :: members) none met' ↔
      ∃ stored, shape.read format value = .ok stored ∧
        Meets format shape name members (some stored) met' := by
  simp only [meets_some]
  simp only [Meets, List.map_cons, List.mem_cons, true_or, not_true_eq_false, false_and,
    false_or, true_and, List.count_cons_self, Nat.add_eq_right, List.count_eq_zero]
  constructor
  · rintro ⟨absent, value', stored, listed, found, rfl⟩
    rcases listed with same | listed
    · cases same
      exact ⟨stored, found, absent, rfl⟩
    · exact absurd (List.mem_map_of_mem listed) absent
  · rintro ⟨stored, found, absent, rfl⟩
    exact ⟨absent, value, stored, .inl rfl, found, rfl⟩

theorem foldM_field_iff (members : List (String × Value)) (met met' : Option α)
    (others others' : δ) :
    (Members.ofList members).foldM ((Fields.field name shape default rest).accept format)
        (met, others) = .ok (met', others') ↔
      Meets format shape name members met met' ∧
        (Members.ofList (beyond name members)).foldM (rest.accept format) others = .ok others' := by
  induction members generalizing met others with
  | nil =>
      simp [Members.ofList, Members.foldM, Meets, beyond, eq_comm]
  | cons member tail induction =>
      obtain ⟨other, value⟩ := member
      rw [Members.ofList, Members.foldM]
      by_cases same : other = name
      · subst same
        have skipped : beyond other ((other, value) :: tail) = beyond other tail := by
          simp [beyond]
        rw [skipped]
        cases met with
        | some met =>
            rw [accept_repeated, meets_some]
            simp [bind_eq_ok_iff]
        | none =>
            rw [accept_first, meets_cons_same, bind_eq_ok_iff]
            constructor
            · rintro ⟨passed, mapped, folded⟩
              rcases map_eq_ok mapped with ⟨stored, found, rfl⟩
              rcases (induction (some stored) others).1 folded with ⟨meets, foldedRest⟩
              exact ⟨⟨stored, found, meets⟩, foldedRest⟩
            · rintro ⟨⟨stored, found, meets⟩, foldedRest⟩
              exact ⟨(some stored, others), map_eq_ok_iff.2 ⟨stored, found, rfl⟩,
                (induction (some stored) others).2 ⟨meets, foldedRest⟩⟩
      · have kept : beyond name ((other, value) :: tail) = (other, value) :: beyond name tail := by
          simp [beyond, same]
        rw [accept_other same, kept, Members.ofList, Members.foldM, meets_cons_other same,
          bind_eq_ok_iff, bind_eq_ok_iff]
        constructor
        · rintro ⟨passed, mapped, folded⟩
          rcases map_eq_ok mapped with ⟨next, accepted, rfl⟩
          rcases (induction met next).1 folded with ⟨meets, foldedRest⟩
          exact ⟨meets, next, accepted, foldedRest⟩
        · rintro ⟨meets, next, accepted, foldedRest⟩
          exact ⟨(met, next), map_eq_ok_iff.2 ⟨next, accepted, rfl⟩,
            (induction met next).2 ⟨meets, foldedRest⟩⟩

def ofMembers (format : Format) {α δ : Type} (fields : Fields α δ)
    (members : List (String × Value)) : Except ReadFault α := do
  let draft ← (Members.ofList members).foldM (fields.accept format) fields.blank
  fields.complete draft

theorem ofMembers_field_iff (members : List (String × Value)) (value : α) (values : β) :
    (Fields.field name shape default rest).ofMembers format members = .ok (value, values) ↔
      ((∃ met, Meets format shape name members none met ∧ met.or default = some value) ∧
        rest.ofMembers format (beyond name members) = .ok values) := by
  rw [ofMembers, blank, bind_eq_ok_iff, ofMembers, bind_eq_ok_iff]
  constructor
  · rintro ⟨⟨met, others⟩, folded, completed⟩
    rcases (foldM_field_iff members none met rest.blank others).1 folded with ⟨meets, foldedRest⟩
    rw [complete] at completed
    split at completed
    · cases completed
    · rename_i stored chosen
      rcases bind_eq_ok completed with ⟨remaining, completedRest, same⟩
      cases same
      exact ⟨⟨met, meets, chosen⟩, others, foldedRest, completedRest⟩
  · rintro ⟨⟨met, meets, chosen⟩, others, foldedRest, completedRest⟩
    refine ⟨(met, others), (foldM_field_iff members none met rest.blank others).2
      ⟨meets, foldedRest⟩, ?_⟩
    rw [complete, chosen]
    dsimp only
    rw [completedRest]
    rfl

theorem meets_or_iff (members : List (String × Value)) (value : α) :
    (∃ met, Meets format shape name members none met ∧ met.or default = some value) ↔
      (members.map Prod.fst).count name ≤ 1 ∧
        ((∃ stored, (name, stored) ∈ members ∧ shape.read format stored = .ok value) ∨
          (name ∉ members.map Prod.fst ∧ default = some value)) := by
  constructor
  · rintro ⟨met, ⟨absent, rfl⟩ | ⟨-, once, stored, value', listed, found, rfl⟩, chosen⟩
    · have none : (members.map Prod.fst).count name = 0 := List.count_eq_zero.2 absent
      exact ⟨by omega, .inr ⟨absent, by simpa using chosen⟩⟩
    · rw [Option.some_or, Option.some.injEq] at chosen
      exact ⟨by omega, .inl ⟨stored, listed, chosen ▸ found⟩⟩
  · rintro ⟨atMost, ⟨stored, listed, found⟩ | ⟨absent, chosen⟩⟩
    · have present : 0 < (members.map Prod.fst).count name :=
        List.count_pos_iff.2 (List.mem_map_of_mem listed)
      exact ⟨some value, .inr ⟨rfl, by omega, stored, value, listed, found, rfl⟩, by simp⟩
    · exact ⟨none, .inl ⟨absent, rfl⟩, by simpa using chosen⟩

theorem ofMembers_done_iff (members : List (String × Value)) :
    Fields.done.ofMembers format members = .ok () ↔
      ∀ member ∈ members, member.2.isComplete = true := by
  have folded : (Members.ofList members).foldM (Fields.done.accept format) () = .ok () ↔
      ∀ member ∈ members, member.2.isComplete = true := by
    induction members with
    | nil => simp [Members.ofList, Members.foldM]
    | cons member tail induction =>
        have passed : Fields.done.accept format member.1 member.2 () = .ok () ↔
            member.2.isComplete = true := by
          rw [accept, Value.pass]
          cases member.2.isComplete <;> simp
        rw [Members.ofList, Members.foldM, bind_eq_ok_iff, List.forall_mem_cons, ← passed,
          ← induction]
        constructor
        · rintro ⟨_, first, others⟩
          exact ⟨first, others⟩
        · rintro ⟨first, others⟩
          exact ⟨_, first, others⟩
  rw [← folded, ofMembers, bind_eq_ok_iff]
  constructor
  · rintro ⟨_, all, _⟩
    exact all
  · intro all
    exact ⟨_, all, rfl⟩

theorem mem_beyond {member : String × Value} {members : List (String × Value)} :
    member ∈ beyond name members ↔ member ∈ members ∧ member.1 ≠ name := by
  simp [beyond]

theorem settles_congr (format : Format) : {α δ : Type} → (fields : Fields α δ) →
    {members members' : List (String × Value)} →
    (∀ name ∈ fields.names, ∀ stored, (name, stored) ∈ members ↔ (name, stored) ∈ members') →
    (value : α) → (fields.Settles format members value ↔ fields.Settles format members' value)
  | _, _, .done, _, _, _, _ => Iff.rfl
  | _, _, .field name shape default rest, members, members', same, (value, values) => by
      have first := same name List.mem_cons_self
      have present : name ∈ members.map Prod.fst ↔ name ∈ members'.map Prod.fst := by
        simp only [List.mem_map, Prod.exists, exists_and_right, exists_eq_right, first]
      have others := rest.settles_congr format
        (fun other listed => same other (List.mem_cons_of_mem name listed)) values
      rw [Settles, Settles, present, others]
      simp only [first]

theorem names_beyond (members : List (String × Value)) :
    (beyond name members).map Prod.fst = (members.map Prod.fst).filter (· ≠ name) := by
  rw [List.filter_map]
  rfl

theorem count_beyond {other : String} (different : other ≠ name)
    (members : List (String × Value)) :
    ((beyond name members).map Prod.fst).count other = (members.map Prod.fst).count other := by
  rw [names_beyond, List.count_filter (by simpa using different)]

theorem admits_field_iff (absent : name ∉ rest.names) (members : List (String × Value)) :
    (Fields.field name shape default rest).Admits members ↔
      (members.map Prod.fst).count name ≤ 1 ∧ rest.Admits (beyond name members) := by
  constructor
  · rintro ⟨once, passed⟩
    refine ⟨once name List.mem_cons_self, ⟨fun other listed => ?_, fun member listed new => ?_⟩⟩
    · have different : other ≠ name := fun same => absent (same ▸ listed)
      rw [count_beyond different]
      exact once other (List.mem_cons_of_mem name listed)
    · rw [mem_beyond] at listed
      exact passed member listed.1 fun known => (List.mem_cons.1 known).elim listed.2 new
  · rintro ⟨first, once, passed⟩
    refine ⟨fun other listed => ?_, fun member listed new => ?_⟩
    · by_cases same : other = name
      · rwa [same]
      · rw [← count_beyond same]
        exact once other ((List.mem_cons.1 listed).resolve_left same)
    · rw [names, List.mem_cons, not_or] at new
      exact passed member (mem_beyond.2 ⟨listed, new.1⟩) new.2

/-- Members are read as a record just when each field is met once at most, all else
is complete, and the fields have their values by members or by default. -/
theorem ofMembers_iff (format : Format) : {α δ : Type} → (fields : Fields α δ) →
    fields.names.Nodup → (members : List (String × Value)) → (value : α) →
    (fields.ofMembers format members = .ok value ↔
      fields.Admits members ∧ fields.Settles format members value)
  | _, _, .done, _, members, () => by
      rw [ofMembers_done_iff]
      exact ⟨fun all => ⟨⟨nofun, fun member listed _ => all member listed⟩, trivial⟩,
        fun ⟨admits, _⟩ member listed => admits.passed member listed (by simp [names])⟩
  | _, _, .field name shape default rest, distinct, members, (value, values) => by
      have apart := List.nodup_cons.1 distinct
      have elsewhere : ∀ other ∈ rest.names, ∀ stored,
          (other, stored) ∈ beyond name members ↔ (other, stored) ∈ members := by
        intro other listed stored
        have different : other ≠ name := fun same => apart.1 (same ▸ listed)
        simp [mem_beyond, different]
      rw [ofMembers_field_iff, meets_or_iff, rest.ofMembers_iff format apart.2,
        rest.settles_congr format elsewhere, Settles]
      rw [admits_field_iff apart.1]
      constructor
      · rintro ⟨⟨once, first⟩, admits, others⟩
        exact ⟨⟨once, admits⟩, first, others⟩
      · rintro ⟨⟨once, admits⟩, first, others⟩
        exact ⟨⟨once, first⟩, admits, others⟩

end Fields

theorem Shape.read_record {α δ : Type} (format : Format) (label : String) (fields : Fields α δ)
    (members : List (String × Value)) :
    (Shape.record label fields).read format (.record (.ofList members)) =
      fields.ofMembers format members := by
  rw [Shape.read, Fields.ofMembers]

end BucketReplication.Document
