import BucketReplication.Document.ReadFault

/-! # Shapes of records

A shape says how the values of a type stand in a document. It is data: the same
description is read from and written to, so the two always agree on names,
order and defaults of the fields. -/

namespace BucketReplication.Document

/-- Natural numbers below a limit, with the type that holds them and the label
that messages use for it. -/
structure NaturalRange (α : Type) where
  label : String
  limit : Nat
  ofNat : Nat → α
  toNat : α → Nat
  toNat_lt : ∀ value, toNat value < limit
  ofNat_toNat : ∀ value, ofNat (toNat value) = value

namespace NaturalRange

def word32 : NaturalRange UInt32 :=
  ⟨"u32", UInt32.size, UInt32.ofNat, UInt32.toNat, UInt32.toNat_lt_size, fun _ => UInt32.ofNat_toNat⟩

def word64 : NaturalRange UInt64 :=
  ⟨"u64", UInt64.size, UInt64.ofNat, UInt64.toNat, UInt64.toNat_lt_size, fun _ => UInt64.ofNat_toNat⟩

def size : NaturalRange UInt64 :=
  { word64 with label := "usize" }

end NaturalRange

mutual
/-- How values of a type stand in a document. `mapping` is a record with any
names and with text for every value; `choice` lists the names that stand for
a value; `converted` reads and writes a type as another one. -/
inductive Shape : Type → Type 1 where
  | text : Shape String
  | flag : Shape Bool
  | natural {α : Type} (range : NaturalRange α) : Shape α
  | choice {α : Type} (choices : List (String × α)) (nameOf : α → String) : Shape α
  | optional {α : Type} (inner : Shape α) : Shape (Option α)
  | sequence {α : Type} (inner : Shape α) : Shape (List α)
  | mapping : Shape (List (String × String))
  | record {α δ : Type} (name : String) (fields : Fields α δ) : Shape α
  | converted {α β : Type} (inner : Shape α) (build : α → β) (parts : β → α) : Shape β

/-- The fields of a record in the order in which they are written. A field
with a default may be left out. The second type is that of a draft: the
values of the fields met so far. -/
inductive Fields : Type → Type → Type 1 where
  | done : Fields Unit Unit
  | field {α β δ : Type} (name : String) (shape : Shape α) (default : Option α)
      (rest : Fields β δ) : Fields (α × β) (Option α × δ)
end

namespace Fields

def blank : {α δ : Type} → Fields α δ → δ
  | _, _, .done => ()
  | _, _, .field _ _ _ rest => (none, rest.blank)

def count : {α δ : Type} → Fields α δ → Nat
  | _, _, .done => 0
  | _, _, .field _ _ _ rest => rest.count + 1

def names : {α δ : Type} → Fields α δ → List String
  | _, _, .done => []
  | _, _, .field name _ _ rest => name :: rest.names

def complete : {α δ : Type} → Fields α δ → δ → Except ReadFault α
  | _, _, .done, _ => .ok ()
  | _, _, .field name _ default rest, (met, others) =>
    match met.or default with
    | none => .error (.missingField name)
    | some value => do
      let remaining ← rest.complete others
      return (value, remaining)

end Fields

end BucketReplication.Document
