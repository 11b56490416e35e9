import BucketReplication.Document.Shape

/-! # Reading a document by a shape

The tree is walked once from left to right and the first fault ends the
reading. A record is read in either of two forms: by names, in any order and
with unknown names passed over, or as a sequence of its fields in their order. -/

namespace BucketReplication.Document

inductive Format where
  /-- A sequence for a record holds no more items than the record has fields,
  and a choice may be written as a record with one null member. -/
  | json
  /-- Items beyond the last field are ignored, and a choice may be written as a
  table that holds one empty table or sequence. -/
  | toml
deriving DecidableEq, Repr

def Value.pass (value : Value) : Except ReadFault Unit :=
  if value.isComplete then .ok () else .error .malformed

def Items.mapM {α : Type} (read : Value → Except ReadFault α) :
    Items → Except ReadFault (List α)
  | .closed => .ok []
  | .broken => .error .malformed
  | .item value rest => do
    let first ← read value
    let others ← rest.mapM read
    return first :: others

def Members.foldM {δ : Type} (accept : String → Value → δ → Except ReadFault δ) :
    Members → δ → Except ReadFault δ
  | .closed, draft => .ok draft
  | .broken, _ => .error .malformed
  | .member none _ _, _ => .error .malformed
  | .member (some name) value rest, draft => do
    let next ← accept name value draft
    rest.foldM accept next

namespace Choice

def pick {α : Type} (choices : List (String × α)) (name : String) : Except ReadFault α :=
  match choices.lookup name with
  | some value => .ok value
  | none => .error (.unknownChoice name (choices.map Prod.fst))

/-- A choice written as a record of one member, whose value is null. The name
is judged before the value. -/
def ofMembers {α : Type} (choices : List (String × α)) : Members → Except ReadFault α
  | .member (some name) value rest => do
    let chosen ← pick choices name
    match value, rest with
    | .null, .closed => return chosen
    | .null, _ => throw .malformed
    | value, _ => throw (value.unlike "unit")
  | _ => .error .malformed

def ofTable {α : Type} (choices : List (String × α)) : Members → Except ReadFault α
  | .member (some name) value .closed => do
    let chosen ← pick choices name
    match value with
    | .record .closed => return chosen
    | .sequence .closed => return chosen
    | _ => throw .malformed
  | _ => .error .malformed

def read {α : Type} (format : Format) (choices : List (String × α)) :
    Value → Except ReadFault α
  | .text (some name) => pick choices name
  | .record members =>
    match format with
    | .json => ofMembers choices members
    | .toml => ofTable choices members
  | _ => .error .malformed

end Choice

def NaturalRange.read {α : Type} (range : NaturalRange α) : Value → Except ReadFault α
  | .number (some (.integer value)) =>
    if 0 ≤ value ∧ value < range.limit then .ok (range.ofNat value.toNat)
    else .error (.outOfRange value range.label)
  | value => .error (value.unlike range.label)

def acceptEntry (name : String) (value : Value) (entries : List (String × String)) :
    Except ReadFault (List (String × String)) :=
  match value with
  | .text (some content) => .ok (entries ++ [(name, content)])
  | value => .error (value.unlike "a string")

mutual
def Shape.read (format : Format) : {α : Type} → Shape α → Value → Except ReadFault α
  | _, .text, value =>
    match value with
    | .text (some content) => .ok content
    | value => .error (value.unlike "a string")
  | _, .flag, value =>
    match value with
    | .flag stored => .ok stored
    | value => .error (value.unlike "a boolean")
  | _, .natural range, value => range.read value
  | _, .choice choices _, value => Choice.read format choices value
  | _, .optional inner, value =>
    match value with
    | .null => .ok none
    | value => some <$> inner.read format value
  | _, .sequence inner, value =>
    match value with
    | .sequence items => items.mapM (inner.read format)
    | value => .error (value.unlike "a sequence")
  | _, .mapping, value =>
    match value with
    | .record members => members.foldM acceptEntry []
    | value => .error (value.unlike "a map")
  | _, .record name fields, value =>
    match value with
    | .record members => do
      let draft ← members.foldM (fields.accept format) fields.blank
      fields.complete draft
    | .sequence items => fields.ofItems format name fields.count 0 items
    | .moment => fields.complete fields.blank
    | value => .error (value.unlike ("struct " ++ name))
  | _, .converted inner build _, value => build <$> inner.read format value

/-- Take in a member of a record. A field that stands a second time is a
fault before its value is looked at; an unknown name is passed over. -/
def Fields.accept (format : Format) : {α δ : Type} → Fields α δ →
    String → Value → δ → Except ReadFault δ
  | _, _, .done, _, value, draft => do
    value.pass
    return draft
  | _, _, .field fieldName shape _ rest, name, value, (met, others) =>
    if name = fieldName then
      match met with
      | some _ => .error (.duplicateField name)
      | none => do
        let stored ← shape.read format value
        return (some stored, others)
    else do
      let remaining ← rest.accept format name value others
      return (met, remaining)

/-- Read a record from the sequence of its fields, the next of which is the
one at `index`. Fields with a default may be left out at the end. -/
def Fields.ofItems (format : Format) : {α δ : Type} → Fields α δ →
    (record : String) → (fieldCount index : Nat) → Items → Except ReadFault α
  | _, _, .done, _, _, _, items =>
    match format, items with
    | .toml, _ => .ok ()
    | .json, .closed => .ok ()
    | .json, _ => .error .malformed
  | _, _, .field _ shape default rest, record, fieldCount, index, items =>
    match items with
    | .broken => .error .malformed
    | .item value others => do
      let stored ← shape.read format value
      let remaining ← rest.ofItems format record fieldCount (index + 1) others
      return (stored, remaining)
    | .closed =>
      match default with
      | none => .error (.tooShort index record fieldCount)
      | some stored => do
        let remaining ← rest.ofItems format record fieldCount (index + 1) .closed
        return (stored, remaining)
end

end BucketReplication.Document
