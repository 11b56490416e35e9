import BucketReplication.Document.Writing

/-! # Outlines of documents

An outline tells what records a document may hold and nothing of what they are read
as: the names of their members, the values that absent members stand for, and the
outlines of what the members hold. It is enough to tell which changes of a document
restate a record and which ones spoil it. -/

namespace BucketReplication.Document

mutual
/-- The outline of a value. A `plain` value holds no record, and a value that may be
null has the outline of what it is otherwise. -/
inductive Outline where
  | plain
  | listOf (item : Outline)
  | record (declared : List DeclaredMember)

/-- A member that a record knows. It may be absent if there is a default for it. -/
structure DeclaredMember where
  name : String
  default : Option Value
  content : Outline
end

mutual
def Shape.outline : {α : Type} → Shape α → Outline
  | _, .optional inner => inner.outline
  | _, .sequence inner => .listOf inner.outline
  | _, .record _ fields => .record fields.outline
  | _, .converted inner _ _ => inner.outline
  | _, _ => .plain

def Fields.outline : {α δ : Type} → Fields α δ → List DeclaredMember
  | _, _, .done => []
  | _, _, .field name shape default rest =>
    ⟨name, default.map shape.write, shape.outline⟩ :: rest.outline
end

theorem Fields.names_outline : {α δ : Type} → (fields : Fields α δ) →
    fields.outline.map DeclaredMember.name = fields.names
  | _, _, .done => rfl
  | _, _, .field name _ _ rest => congrArg (name :: ·) rest.names_outline

theorem Fields.mem_names {α δ : Type} {fields : Fields α δ} {member : DeclaredMember}
    (listed : member ∈ fields.outline) : member.name ∈ fields.names :=
  fields.names_outline ▸ List.mem_map_of_mem listed

/-! ## Changes of one record -/

section Changes

variable (declared : List DeclaredMember)

/-- Members that say the same: in another order, with a member of an unknown name, or
without one that holds its default. -/
inductive Restates : List (String × Value) → List (String × Value) → Prop
  | permuted {members members' : List (String × Value)} (same : members.Perm members') :
      Restates members members'
  | extended {name : String} {value : Value} (before after : List (String × Value))
      (unknown : name ∉ declared.map DeclaredMember.name) (complete : value.isComplete = true) :
      Restates (before ++ after) (before ++ (name, value) :: after)
  | omitted {member : DeclaredMember} {value : Value} (before after : List (String × Value))
      (listed : member ∈ declared) (replaceable : member.default = some value) :
      Restates (before ++ (member.name, value) :: after) (before ++ after)

/-- Members that say too little or too much: without one that has no default, or with
one more of a name that is known and stands there already. -/
inductive Spoils : List (String × Value) → List (String × Value) → Prop
  | removed {member : DeclaredMember} {value : Value} (before after : List (String × Value))
      (listed : member ∈ declared) (required : member.default = none) :
      Spoils (before ++ (member.name, value) :: after) (before ++ after)
  | repeated {name : String} {value : Value} (before after : List (String × Value))
      (known : name ∈ declared.map DeclaredMember.name)
      (present : name ∈ (before ++ after).map Prod.fst) :
      Spoils (before ++ after) (before ++ (name, value) :: after)

end Changes

/-! ## Changes at any depth -/

/-- A change of the members of one record, the document itself or one that stands
anywhere in it. A record may also be written as the list of what its members hold;
then an item is what the member at its place holds. -/
inductive Outline.Within
    (change : List DeclaredMember → List (String × Value) → List (String × Value) → Prop) :
    Outline → Value → Value → Prop
  | record {declared : List DeclaredMember} {members members' : List (String × Value)}
      (changed : change declared members members') :
      (Outline.record declared).Within change (.record (.ofList members))
        (.record (.ofList members'))
  | member {declared : List DeclaredMember} {member : DeclaredMember} {value value' : Value}
      (before after : List (String × Value)) (listed : member ∈ declared)
      (inside : member.content.Within change value value') :
      (Outline.record declared).Within change
        (.record (.ofList (before ++ (member.name, value) :: after)))
        (.record (.ofList (before ++ (member.name, value') :: after)))
  | place {declared : List DeclaredMember} {member : DeclaredMember} {value value' : Value}
      (before after : List Value) (placed : declared[before.length]? = some member)
      (inside : member.content.Within change value value') :
      (Outline.record declared).Within change
        (.sequence (.ofList (before ++ value :: after)))
        (.sequence (.ofList (before ++ value' :: after)))
  | item {item : Outline} {value value' : Value} (before after : List Value)
      (inside : item.Within change value value') :
      (Outline.listOf item).Within change (.sequence (.ofList (before ++ value :: after)))
        (.sequence (.ofList (before ++ value' :: after)))

namespace Outline

variable
  {change : List DeclaredMember → List (String × Value) → List (String × Value) → Prop}

theorem Within.ne_null {outline : Outline} {value value' : Value}
    (within : outline.Within change value value') : value ≠ .null ∧ value' ≠ .null := by
  cases within with
  | _ => exact ⟨nofun, nofun⟩

/-- One record of a document, at any depth, is restated. -/
def Restatement (outline : Outline) : Value → Value → Prop :=
  outline.Within Restates

def Spoiling (outline : Outline) : Value → Value → Prop :=
  outline.Within Spoils

end Outline

end BucketReplication.Document
