import BucketReplication.Proofs.Document.Members
import BucketReplication.Proofs.Document.Outline

/-! # What a changed document is read as

A document is changed in the members of one record at any depth. What a change does
to that record, as its outline tells, it does to the whole document. -/

namespace BucketReplication.Document

/-! ## Changed results -/

/-- A result after a change, if it was a value before: it is the same value or, unless
values are kept, none. -/
def Turns {ε α : Type} (kept : Prop) (before after : Except ε α) : Prop :=
  ∀ value, before = .ok value → ∀ value', after = .ok value' ↔ kept ∧ value' = value

namespace Turns

variable {ε α β : Type} {kept : Prop} {before after : Except ε α}

theorem map (turns : Turns kept before after) (change : α → β) :
    Turns kept (change <$> before) (change <$> after) := by
  intro result succeeded result'
  rcases map_eq_ok succeeded with ⟨value, found, rfl⟩
  rw [map_eq_ok_iff]
  simp only [turns value found]
  constructor
  · rintro ⟨_, ⟨keeps, rfl⟩, rfl⟩
    exact ⟨keeps, rfl⟩
  · rintro ⟨keeps, rfl⟩
    exact ⟨value, ⟨keeps, rfl⟩, rfl⟩

theorem bind_first (turns : Turns kept before after) (next : α → Except ε β) :
    Turns kept (before >>= next) (after >>= next) := by
  intro result succeeded result'
  rcases bind_eq_ok succeeded with ⟨value, found, succeeded⟩
  rw [bind_eq_ok_iff]
  simp only [turns value found]
  constructor
  · rintro ⟨_, ⟨keeps, rfl⟩, again⟩
    rw [succeeded] at again
    exact ⟨keeps, (Except.ok.inj again).symm⟩
  · rintro ⟨keeps, rfl⟩
    exact ⟨value, ⟨keeps, rfl⟩, succeeded⟩

theorem bind_rest (first : Except ε α) {next next' : α → Except ε β}
    (turns : ∀ value, Turns kept (next value) (next' value)) :
    Turns kept (first >>= next) (first >>= next') := by
  intro result succeeded
  rcases bind_eq_ok succeeded with ⟨value, rfl, succeeded⟩
  exact turns value result succeeded

theorem refuses (turns : Turns False before after) {value : α} (found : before = .ok value) :
    ∃ fault, after = .error fault := by
  cases result : after with
  | error fault => exact ⟨fault, rfl⟩
  | ok value' => exact absurd ((turns value found value').1 result).1 id

end Turns

/-! ## Changes of the members -/

/-- What a change of the members does to every record that they are read as. -/
def Acts (format : Format) (kept : Prop)
    (change : List DeclaredMember → List (String × Value) → List (String × Value) → Prop) : Prop :=
  ∀ ⦃α δ : Type⦄ (fields : Fields α δ), fields.Lawful → ∀ members members',
    change fields.outline members members' →
      Turns kept (fields.ofMembers format members) (fields.ofMembers format members')

namespace Fields

variable {format : Format} {α δ : Type} {fields : Fields α δ} {member : DeclaredMember}
  {name : String} {stored : Value} {before after : List (String × Value)}

theorem Lawful.distinct : {α δ : Type} → {fields : Fields α δ} → fields.Lawful →
    fields.names.Nodup
  | _, _, .done, _ => List.nodup_nil
  | _, _, .field _ _ _ _, lawful => List.nodup_cons.2 ⟨lawful.1, lawful.2.2.2.distinct⟩

theorem absent_of_once
    (once : ((before ++ (name, stored) :: after).map Prod.fst).count name ≤ 1) :
    name ∉ (before ++ after).map Prod.fst := by
  simp only [List.map_append, List.map_cons, List.count_append, List.count_cons_self] at once
  rw [List.map_append, List.mem_append, not_or, ← List.count_eq_zero, ← List.count_eq_zero]
  omega

theorem mem_insert_iff {other : String} (different : other ≠ name) (value : Value) :
    (other, value) ∈ before ++ (name, stored) :: after ↔ (other, value) ∈ before ++ after := by
  simp [different]

theorem count_insert {other : String} (different : other ≠ name) :
    ((before ++ (name, stored) :: after).map Prod.fst).count other =
      ((before ++ after).map Prod.fst).count other := by
  simp [Ne.symm different]

theorem eq_of_absent {stored' : Value} (absent : name ∉ (before ++ after).map Prod.fst)
    (listed : (name, stored') ∈ before ++ (name, stored) :: after) : stored' = stored := by
  rw [List.mem_append, List.mem_cons] at listed
  rcases listed with inBefore | same | inAfter
  · exact absurd (List.mem_map_of_mem (List.mem_append_left after inBefore)) absent
  · exact congrArg Prod.snd same
  · exact absurd (List.mem_map_of_mem (List.mem_append_right before inAfter)) absent

theorem present_of_settles : {α δ : Type} → (fields : Fields α δ) → {member : DeclaredMember} →
    member ∈ fields.outline → member.default = none → {members : List (String × Value)} →
    {value : α} → fields.Settles format members value → member.name ∈ members.map Prod.fst
  | _, _, .done, _, listed, _, _, _, _ => absurd listed List.not_mem_nil
  | _, _, .field name shape default rest, _, listed, required, _, (value, values), settles => by
      rcases List.mem_cons.1 listed with rfl | listed
      · rcases settles.1 with ⟨stored, present, -⟩ | ⟨-, chosen⟩
        · exact List.mem_map_of_mem present
        · simp [chosen] at required
      · exact rest.present_of_settles listed required settles.2

theorem settles_omitted : {α δ : Type} → (fields : Fields α δ) → fields.Lawful →
    {member : DeclaredMember} → {stored : Value} → member ∈ fields.outline →
    member.default = some stored → {before after : List (String × Value)} →
    member.name ∉ (before ++ after).map Prod.fst → {value : α} →
    fields.Settles format (before ++ (member.name, stored) :: after) value →
    fields.Settles format (before ++ after) value
  | _, _, .done, _, _, _, listed, _, _, _, _, _, _ => absurd listed List.not_mem_nil
  | _, _, .field name shape default rest, lawful, _, stored, listed, replaceable, before, after,
      absent, (value, values), settles => by
      rcases List.mem_cons.1 listed with rfl | listed
      · obtain ⟨held, chosen, rfl⟩ := Option.map_eq_some_iff.1 replaceable
        have others : ∀ other ∈ rest.names, ∀ content,
            (other, content) ∈ before ++ (name, shape.write held) :: after ↔
              (other, content) ∈ before ++ after := fun other known =>
          mem_insert_iff fun same => lawful.1 (same ▸ known)
        refine ⟨.inr ⟨absent, ?_⟩, (settles_congr format rest others values).1 settles.2⟩
        rcases settles.1 with ⟨stored, present, found⟩ | ⟨missing, -⟩
        · -- The one member of the name is the default as it is written.
          rw [eq_of_absent absent present,
            shape.read_write format lawful.2.1 held (lawful.2.2.1 held chosen)] at found
          rw [chosen, Except.ok.inj found]
        · simp at missing
      · have different : name ≠ _ := fun same => lawful.1 (same ▸ mem_names listed)
        refine ⟨?_, rest.settles_omitted lawful.2.2.2 listed replaceable absent settles.2⟩
        have first := settles.1
        simp only [mem_insert_iff different, List.mem_map, Prod.exists, exists_and_right,
          exists_eq_right] at first ⊢
        exact first

theorem ofMembers_restated (lawful : fields.Lawful) {members members' : List (String × Value)}
    {value : α} (restates : Restates fields.outline members members')
    (found : fields.ofMembers format members = .ok value) :
    fields.ofMembers format members' = .ok value := by
  rw [ofMembers_iff format fields lawful.distinct] at found ⊢
  rcases found with ⟨admits, settles⟩
  cases restates with
  | permuted same =>
      refine ⟨⟨fun name known => ?_, fun member listed => ?_⟩, ?_⟩
      · rw [← (same.map Prod.fst).count_eq]
        exact admits.once name known
      · exact admits.passed member (same.mem_iff.2 listed)
      · exact (settles_congr format fields (fun name _ stored => same.mem_iff) value).1 settles
  | @extended name stored before after unknown complete =>
      rw [names_outline] at unknown
      have other : ∀ known ∈ fields.names, known ≠ name := fun known listed same =>
        unknown (same ▸ listed)
      refine ⟨⟨fun known listed => ?_, fun member listed new => ?_⟩, ?_⟩
      · rw [count_insert (other known listed)]
        exact admits.once known listed
      · rw [List.mem_append, List.mem_cons] at listed
        rcases listed with inBefore | rfl | inAfter
        · exact admits.passed member (List.mem_append_left after inBefore) new
        · exact complete
        · exact admits.passed member (List.mem_append_right before inAfter) new
      · exact (settles_congr format fields (fun known listed value =>
          (mem_insert_iff (other known listed) value).symm) value).1 settles
  | @omitted member stored before after listed replaceable =>
      have absent := absent_of_once (admits.once member.name (mem_names listed))
      have fewer : (before ++ after).Sublist (before ++ (member.name, stored) :: after) :=
        (List.sublist_cons_self _ after).append_left before
      refine ⟨⟨fun known listed => ?_, fun member listed => ?_⟩, ?_⟩
      · exact Nat.le_trans ((fewer.map Prod.fst).count_le known) (admits.once known listed)
      · exact admits.passed member (fewer.subset listed)
      · exact fields.settles_omitted lawful listed replaceable absent settles

theorem ofMembers_spoiled (lawful : fields.Lawful) {members members' : List (String × Value)}
    {value : α} (spoils : Spoils fields.outline members members')
    (found : fields.ofMembers format members = .ok value) (value' : α) :
    fields.ofMembers format members' ≠ .ok value' := by
  rw [ofMembers_iff format fields lawful.distinct] at found
  rw [Ne, ofMembers_iff format fields lawful.distinct]
  rintro ⟨admits', settles'⟩
  cases spoils with
  | @removed member stored before after listed required =>
      have absent := absent_of_once (found.1.once member.name (mem_names listed))
      exact absent (fields.present_of_settles listed required settles')
  | @repeated name stored before after known present =>
      rw [names_outline] at known
      exact absent_of_once (admits'.once name known) present

end Fields

theorem acts_restates (format : Format) : Acts format True Restates := by
  intro α δ fields lawful members members' restates value found value'
  rw [Fields.ofMembers_restated lawful restates found, Except.ok.injEq, true_and]
  exact eq_comm

theorem acts_spoils (format : Format) : Acts format False Spoils := by
  intro α δ fields lawful members members' spoils value found value'
  simp [Fields.ofMembers_spoiled lawful spoils found]

/-! ## Changes at any depth -/

theorem Members.foldM_append {δ : Type} (accept : String → Value → δ → Except ReadFault δ)
    (before after : List (String × Value)) (draft : δ) :
    (ofList (before ++ after)).foldM accept draft = (do
      let next ← (ofList before).foldM accept draft
      (ofList after).foldM accept next) := by
  induction before generalizing draft with
  | nil => rfl
  | cons member tail induction =>
      rw [List.cons_append, ofList, foldM, ofList, foldM]
      cases accept member.1 member.2 draft with
      | error => rfl
      | ok next => exact induction next

theorem Items.turns_mapM {α : Type} {kept : Prop} {read : Value → Except ReadFault α}
    {value value' : Value} (turns : Turns kept (read value) (read value'))
    (before after : List Value) :
    Turns kept ((ofList (before ++ value :: after)).mapM read)
      ((ofList (before ++ value' :: after)).mapM read) := by
  induction before with
  | nil =>
      rw [List.nil_append, List.nil_append, ofList, ofList, mapM, mapM]
      exact turns.bind_first _
  | cons first tail induction =>
      rw [List.cons_append, List.cons_append, ofList, ofList, mapM, mapM]
      exact .bind_rest _ fun _ => induction.bind_first _

section Within

variable {format : Format} {kept : Prop}
  {change : List DeclaredMember → List (String × Value) → List (String × Value) → Prop}

mutual
/-- What a change does to the record that it is made in, it does to the document. -/
theorem Shape.turns_read (acts : Acts format kept change) : {α : Type} → (shape : Shape α) →
    shape.Lawful → {value value' : Value} → shape.outline.Within change value value' →
    Turns kept (shape.read format value) (shape.read format value')
  | _, .text, _, _, _, within => nomatch within
  | _, .flag, _, _, _, within => nomatch within
  | _, .natural _, _, _, _, within => nomatch within
  | _, .choice _ _, _, _, _, within => nomatch within
  | _, .mapping, _, _, _, within => nomatch within
  | _, .optional inner, lawful, _, _, within => by
      have unnull := within.ne_null
      rw [Shape.read, Shape.read]
      · exact (inner.turns_read acts lawful.2 within).map _
      · exact unnull.2
      · exact unnull.1
  | _, .converted inner _ _, lawful, _, _, within => by
      rw [Shape.read, Shape.read]
      exact (inner.turns_read acts lawful.1 within).map _
  | _, .sequence inner, lawful, _, _, within => by
      rw [Shape.outline] at within
      cases within with
      | item before after inside =>
          rw [Shape.read, Shape.read]
          exact Items.turns_mapM (inner.turns_read acts lawful inside) before after
  | _, .record label fields, lawful, _, _, within => by
      rw [Shape.outline] at within
      cases within with
      | record changed =>
          rw [Shape.read_record, Shape.read_record]
          exact acts fields lawful _ _ changed
      | member before after listed inside =>
          rw [Shape.read_record, Shape.read_record, Fields.ofMembers, Fields.ofMembers,
            Members.foldM_append, Members.foldM_append]
          refine Turns.bind_first (.bind_rest _ fun draft => ?_) _
          rw [Members.ofList, Members.foldM, Members.ofList, Members.foldM]
          exact (fields.turns_accept acts lawful listed inside draft).bind_first _
      | place before after placed inside =>
          rw [Shape.read, Shape.read]
          exact fields.turns_ofItems acts lawful before after placed inside _ _ _

theorem Fields.turns_accept (acts : Acts format kept change) : {α δ : Type} →
    (fields : Fields α δ) → fields.Lawful → {member : DeclaredMember} → member ∈ fields.outline →
    {value value' : Value} → member.content.Within change value value' → (draft : δ) →
    Turns kept (fields.accept format member.name value draft)
      (fields.accept format member.name value' draft)
  | _, _, .done, _, _, listed, _, _, _, _ => absurd listed List.not_mem_nil
  | _, _, .field name shape default rest, lawful, member, listed, value, value', inside,
      (met, others) => by
      rcases List.mem_cons.1 listed with rfl | listed
      · cases met with
        | none =>
            rw [Fields.accept_first, Fields.accept_first]
            exact (shape.turns_read acts lawful.2.1 inside).map _
        | some met =>
            rw [Fields.accept_repeated, Fields.accept_repeated]
            nofun
      · have different : member.name ≠ name := fun same => lawful.1 (same ▸ Fields.mem_names listed)
        rw [Fields.accept_other different, Fields.accept_other different]
        exact (rest.turns_accept acts lawful.2.2.2 listed inside others).map _

theorem Fields.turns_ofItems (acts : Acts format kept change) : {α δ : Type} →
    (fields : Fields α δ) → fields.Lawful → (before after : List Value) →
    {member : DeclaredMember} → fields.outline[before.length]? = some member →
    {value value' : Value} → member.content.Within change value value' →
    (record : String) → (fieldCount index : Nat) →
    Turns kept
      (fields.ofItems format record fieldCount index (.ofList (before ++ value :: after)))
      (fields.ofItems format record fieldCount index (.ofList (before ++ value' :: after)))
  | _, _, .done, _, _, _, _, placed, _, _, _, _, _, _ => by simp [Fields.outline] at placed
  | _, _, .field name shape default rest, lawful, [], after, _, placed, value, value', inside,
      record, fieldCount, index => by
      cases placed
      rw [List.nil_append, List.nil_append, Items.ofList, Items.ofList, Fields.ofItems,
        Fields.ofItems]
      exact (shape.turns_read acts lawful.2.1 inside).bind_first _
  | _, _, .field name shape default rest, lawful, first :: tail, after, _, placed, value, value',
      inside, record, fieldCount, index => by
      rw [List.cons_append, List.cons_append, Items.ofList, Items.ofList, Fields.ofItems,
        Fields.ofItems]
      exact .bind_rest _ fun _ => (rest.turns_ofItems acts lawful.2.2.2 tail after placed inside
        record fieldCount (index + 1)).bind_first _
end

end Within

end BucketReplication.Document
