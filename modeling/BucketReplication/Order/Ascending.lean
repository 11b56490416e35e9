/-! # Strictly ascending lists

A finite set or map in a canonical form: the list of its items in strictly
ascending order of a key. The order is part of the type, so two collections
with the same items are equal. -/

namespace BucketReplication

/-- Keys of which, of any two different ones, exactly one comes first. -/
class KeyOrder (κ : Type) [LT κ] : Prop where
  irrefl : ∀ key : κ, ¬ key < key
  trans : ∀ {first second third : κ}, first < second → second < third → first < third
  trichotomy : ∀ first second : κ, first < second ∨ first = second ∨ second < first

instance : KeyOrder String where
  irrefl := String.lt_irrefl
  trans := String.lt_trans
  trichotomy := fun _ _ => Std.lt_trichotomy _ _

structure Ascending {α κ : Type} [LT κ] (key : α → κ) where
  items : List α
  ordered : items.Pairwise fun earlier later => key earlier < key later

namespace Ascending

variable {α κ : Type} [LT κ] [DecidableLT κ]

/-- Put an item at its place in an ascending list. An item with the same key
gives way to the new one. -/
def place (key : α → κ) (item : α) : List α → List α
  | [] => [item]
  | head :: tail =>
    if key item < key head then item :: head :: tail
    else if key head < key item then head :: place key item tail
    else item :: tail

theorem mem_of_mem_place {key : α → κ} {item member : α} {items : List α}
    (placed : member ∈ place key item items) : member = item ∨ member ∈ items := by
  induction items with
  | nil => simpa [place] using placed
  | cons head tail induction =>
      grind [place]

theorem place_ordered [KeyOrder κ]
    (key : α → κ) (item : α) (items : List α)
    (ordered : items.Pairwise fun earlier later => key earlier < key later) :
    (place key item items).Pairwise fun earlier later => key earlier < key later := by
  induction items with
  | nil => simp [place]
  | cons head tail induction =>
      rw [List.pairwise_cons] at ordered
      obtain ⟨headFirst, tailOrdered⟩ := ordered
      unfold place
      split
      · rename_i itemFirst
        refine List.pairwise_cons.2 ⟨?_, List.pairwise_cons.2 ⟨headFirst, tailOrdered⟩⟩
        intro member inList
        rcases List.mem_cons.1 inList with rfl | inTail
        · exact itemFirst
        · exact KeyOrder.trans itemFirst (headFirst member inTail)
      · rename_i notBefore
        split
        · rename_i headBefore
          refine List.pairwise_cons.2 ⟨?_, induction tailOrdered⟩
          intro member inPlaced
          rcases mem_of_mem_place inPlaced with rfl | inTail
          · exact headBefore
          · exact headFirst member inTail
        · rename_i notAfter
          have same : key item = key head := by
            rcases KeyOrder.trichotomy (key item) (key head) with before | same | after
            · exact absurd before notBefore
            · exact same
            · exact absurd after notAfter
          refine List.pairwise_cons.2 ⟨?_, tailOrdered⟩
          intro member inTail
          rw [same]
          exact headFirst member inTail

omit [DecidableLT κ] in
@[ext] theorem ext {key : α → κ} {first second : Ascending key}
    (sameItems : first.items = second.items) : first = second := by
  cases first; cases second; simp_all

instance [DecidableEq α] {key : α → κ} : DecidableEq (Ascending key) := fun first second =>
  if sameItems : first.items = second.items then isTrue (ext sameItems)
  else isFalse fun same => sameItems (congrArg items same)

def empty (key : α → κ) : Ascending key := ⟨[], List.Pairwise.nil⟩

def insert [KeyOrder κ] {key : α → κ}
    (item : α) (collection : Ascending key) : Ascending key :=
  ⟨place key item collection.items,
    place_ordered key item collection.items collection.ordered⟩

/-- Insert the items from left to right; of equal keys the last one stays. -/
def ofList [KeyOrder κ] (key : α → κ)
    (items : List α) : Ascending key :=
  items.foldl (fun collection item => collection.insert item) (empty key)

end Ascending

end BucketReplication
