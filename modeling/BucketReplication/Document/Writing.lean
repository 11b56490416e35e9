import BucketReplication.Document.Shape

/-! # Writing a value by its shape

Every field of a record is written, in the order of the fields; an absent
optional value is null. -/

namespace BucketReplication.Document

mutual
def Shape.write : {α : Type} → Shape α → α → Value
  | _, .text, content => .text (some content)
  | _, .flag, value => .flag value
  | _, .natural range, value => .number (some (.integer (range.toNat value)))
  | _, .choice _ nameOf, value => .text (some (nameOf value))
  | _, .optional inner, value =>
    match value with
    | none => .null
    | some stored => inner.write stored
  | _, .sequence inner, values => .sequence (Items.ofList (values.map inner.write))
  | _, .mapping, entries =>
    .record (Members.ofList (entries.map fun (name, content) => (name, .text (some content))))
  | _, .record _ fields, value => .record (fields.write value)
  | _, .converted inner _ parts, value => inner.write (parts value)

def Fields.write : {α δ : Type} → Fields α δ → α → Members
  | _, _, .done, _ => .closed
  | _, _, .field name shape _ rest, (value, others) =>
    .member (some name) (shape.write value) (rest.write others)
end

end BucketReplication.Document
