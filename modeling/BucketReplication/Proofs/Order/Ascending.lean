import BucketReplication.Order.Ascending
import Mathlib.Data.List.Sort

/-! # Collections from lists

A collection holds nothing but the items that it was made from, and made from
its own items it is the same again. Where different items have different keys it
holds all of them, and it is the only ascending list that does. -/

namespace BucketReplication

namespace Ascending

variable {α κ : Type} [LT κ] [DecidableLT κ] [KeyOrder κ] {key : α → κ}

theorem place_last {item : α} {items : List α} (last : ∀ member ∈ items, key member < key item) :
    place key item items = items ++ [item] := by
  induction items with
  | nil => rfl
  | cons head tail induction =>
      have headFirst := last head List.mem_cons_self
      have notBefore : ¬ key item < key head := fun before =>
        KeyOrder.irrefl _ (KeyOrder.trans headFirst before)
      rw [place, if_neg notBefore, if_pos headFirst,
        induction fun member inTail => last member (List.mem_cons_of_mem head inTail)]
      rfl

theorem items_foldl_insert (collection : Ascending key) (items : List α)
    (ordered : (collection.items ++ items).Pairwise
      fun earlier later => key earlier < key later) :
    (items.foldl (fun collection item => collection.insert item) collection).items =
      collection.items ++ items := by
  induction items generalizing collection with
  | nil => simp
  | cons head tail induction =>
      have last : ∀ member ∈ collection.items, key member < key head := by
        intro member inItems
        exact (List.pairwise_append.1 ordered).2.2 member inItems head List.mem_cons_self
      have placed : (collection.insert head).items = collection.items ++ [head] := place_last last
      rw [List.foldl_cons, induction]
      · rw [placed, List.append_assoc, List.singleton_append]
      · rwa [placed, List.append_assoc, List.singleton_append]

theorem ofList_items (collection : Ascending key) : ofList key collection.items = collection := by
  apply ext
  exact items_foldl_insert (empty key) collection.items collection.ordered

theorem mem_of_mem_foldl_insert {item : α} {items : List α} {collection : Ascending key}
    (member : item ∈ (items.foldl (fun collection item => collection.insert item) collection).items) :
    item ∈ collection.items ∨ item ∈ items := by
  induction items generalizing collection with
  | nil => exact .inl member
  | cons head tail induction =>
      rcases induction member with inInserted | inTail
      · rcases mem_of_mem_place inInserted with rfl | inItems
        · exact .inr List.mem_cons_self
        · exact .inl inItems
      · exact .inr (List.mem_cons_of_mem head inTail)

theorem mem_of_mem_ofList {item : α} {items : List α}
    (member : item ∈ (ofList key items).items) : item ∈ items := by
  rcases mem_of_mem_foldl_insert member with inEmpty | inItems
  · cases inEmpty
  · exact inItems

/-! ## Items that are told apart by their keys -/

variable (injective : Function.Injective key)

include injective

theorem mem_place_iff {item member : α} {items : List α} :
    member ∈ place key item items ↔ member = item ∨ member ∈ items := by
  refine ⟨mem_of_mem_place, fun listed => ?_⟩
  induction items with
  | nil => simpa [place] using listed
  | cons head tail induction =>
      unfold place
      split_ifs with before after
      · exact List.mem_cons.2 listed
      · rw [List.mem_cons] at listed ⊢
        tauto
      · -- The item with the same key, which gives way, is the same item.
        have same : head = item := by
          apply injective
          rcases KeyOrder.trichotomy (key head) (key item) with lower | same | higher
          · exact absurd lower after
          · exact same
          · exact absurd higher before
        rw [same] at listed
        simpa using listed

theorem mem_foldl_insert_iff {item : α} {items : List α} {collection : Ascending key} :
    item ∈ (items.foldl (fun collection item => collection.insert item) collection).items ↔
      item ∈ collection.items ∨ item ∈ items := by
  induction items generalizing collection with
  | nil => simp
  | cons head tail induction =>
      have inserted : item ∈ (collection.insert head).items ↔ item = head ∨ item ∈ collection.items :=
        mem_place_iff injective
      rw [List.foldl_cons, induction, inserted, List.mem_cons]
      tauto

theorem mem_ofList_iff {item : α} {items : List α} :
    item ∈ (ofList key items).items ↔ item ∈ items := by
  rw [ofList, mem_foldl_insert_iff injective]
  simp [empty]

omit injective in
omit [DecidableLT κ] in
theorem eq_of_mem_iff {first second : List α}
    (ordered : first.Pairwise fun earlier later => key earlier < key later)
    (ordered' : second.Pairwise fun earlier later => key earlier < key later)
    (same : ∀ item, item ∈ first ↔ item ∈ second) : first = second := by
  have irreflexive : Std.Irrefl fun earlier later => key earlier < key later :=
    ⟨fun item => KeyOrder.irrefl (key item)⟩
  have antisymmetric : Std.Antisymm fun earlier later => key earlier < key later :=
    ⟨fun _ _ before after => absurd (KeyOrder.trans before after) (KeyOrder.irrefl _)⟩
  exact ordered.eq_of_mem_iff ordered' same

end Ascending

end BucketReplication
