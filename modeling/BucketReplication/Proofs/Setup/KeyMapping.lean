import BucketReplication.Replication.Settings

/-! # Mapped keys

What is found in a key mapping after a source key was mapped, and which of the
mapped keys comes last among the fit ones. -/

namespace BucketReplication

namespace Ascending

section

variable {α κ : Type} [LT κ] [DecidableLT κ]

theorem exists_place_eq_append (key : α → κ) (item : α) (items : List α) :
    ∃ before rest behind,
      items = before ++ rest ∧ place key item items = before ++ item :: behind := by
  induction items with
  | nil => exact ⟨[], [], [], rfl, rfl⟩
  | cons head tail induction =>
      unfold place
      split
      · exact ⟨[], head :: tail, head :: tail, rfl, rfl⟩
      · split
        · rcases induction with ⟨before, rest, behind, same, placed⟩
          refine ⟨head :: before, rest, behind, ?_, ?_⟩
          · rw [same, List.cons_append]
          · rw [placed, List.cons_append]
        · exact ⟨[], head :: tail, tail, rfl, rfl⟩

theorem place_place [KeyOrder κ] (key : α → κ) (item : α) (items : List α) :
    place key item (place key item items) = place key item items := by
  have itself := KeyOrder.irrefl (key item)
  induction items with
  | nil => simp [place, itself]
  | cons head tail induction =>
      by_cases first : key item < key head
      · simp [place, first, itself]
      · by_cases later : key head < key item
        · simp [place, first, later, induction]
        · simp [place, first, later, itself]

theorem insert_insert [KeyOrder κ] {key : α → κ} (item : α)
    (collection : Ascending key) :
    (collection.insert item).insert item = collection.insert item :=
  ext (place_place key item collection.items)

end

theorem lookup_place (key value : String) (entries : List (String × String))
    (other : String) :
    (place Prod.fst (key, value) entries).lookup other =
      if key = other then some value else entries.lookup other := by
  induction entries with
  | nil =>
      by_cases same : key = other
      · simp [place, same]
      · have different : (other == key) = false := beq_eq_false_iff_ne.2 (Ne.symm same)
        simp [place, List.lookup_cons, different, same]
  | cons head tail induction =>
      rcases head with ⟨headKey, headValue⟩
      unfold place
      split
      · by_cases same : key = other
        · simp [same]
        · have different : (other == key) = false := beq_eq_false_iff_ne.2 (Ne.symm same)
          rw [List.lookup_cons, different, if_neg same]
      · rename_i notBefore
        split
        · rename_i headBefore
          rw [List.lookup_cons, List.lookup_cons, induction]
          by_cases same : key = other
          · have different : (other == headKey) = false := by
              apply beq_eq_false_iff_ne.2
              intro equal
              have before : headKey < key := headBefore
              rw [same, ← equal] at before
              exact KeyOrder.irrefl other before
            rw [different, if_pos same]
          · rw [if_neg same, if_neg same]
        · rename_i notAfter
          have replaced : key = headKey := by
            rcases KeyOrder.trichotomy key headKey with before | same | after
            · exact absurd before notBefore
            · exact same
            · exact absurd after notAfter
          subst replaced
          rw [List.lookup_cons, List.lookup_cons]
          by_cases same : key = other
          · simp [same]
          · have different : (other == key) = false := beq_eq_false_iff_ne.2 (Ne.symm same)
            rw [different, if_neg same]

end Ascending

namespace KeyMapping

variable {mapping : KeyMapping} {sourceKeyId destinationKeyId : String}

theorem lookup_map (mapping : KeyMapping) (sourceKeyId destinationKeyId other : String) :
    lookup (map mapping sourceKeyId destinationKeyId) other =
      if sourceKeyId = other then some destinationKeyId else lookup mapping other :=
  Ascending.lookup_place sourceKeyId destinationKeyId mapping.items other

theorem isSome_lookup_map {other : String} (mapped : (lookup mapping other).isSome = true) :
    (lookup (map mapping sourceKeyId destinationKeyId) other).isSome = true := by
  rw [lookup_map]
  split
  · rfl
  · exact mapped

theorem mem_items_of_lookup (found : lookup mapping sourceKeyId = some destinationKeyId) :
    (sourceKeyId, destinationKeyId) ∈ mapping.items := by
  rcases List.lookup_eq_some_iff.1 found with ⟨before, after, listed, _⟩
  rw [listed]
  simp

theorem mem_items_map {entry : String × String}
    (inMapping : entry ∈ (map mapping sourceKeyId destinationKeyId).items) :
    entry = (sourceKeyId, destinationKeyId) ∨ entry ∈ mapping.items :=
  Ascending.mem_of_mem_place inMapping

theorem mem_destinationKeyIds {keyId : String} :
    keyId ∈ destinationKeyIds mapping ↔ ∃ entry ∈ mapping.items, entry.2 = keyId := by
  rw [destinationKeyIds, List.mem_eraseDups, List.mem_map]

theorem nodup_eraseDups : (ids : List String) → ids.eraseDups.Nodup
  | [] => List.nodup_nil
  | first :: rest => by
    rw [List.eraseDups_cons, List.nodup_cons]
    refine ⟨?_, nodup_eraseDups _⟩
    simp [List.mem_eraseDups]
termination_by ids => ids.length
decreasing_by
  have shorter := List.length_filter_le (fun id => !id == first) rest
  simpa [Nat.lt_succ_iff] using shorter

/-! ## The last fit key -/

variable {before rest behind : List String} {isFit : String → Bool} {chosen : String}

theorem last_fit_append (before rest : List String) (isFit : String → Bool) :
    ((before ++ rest).eraseDups.filter isFit).getLast? =
      ((rest.removeAll before).eraseDups.filter isFit).getLast?.or
        (before.eraseDups.filter isFit).getLast? := by
  rw [List.eraseDups_append, List.filter_append, List.getLast?_append]

theorem mem_new_fit {keyId : String} :
    keyId ∈ (rest.removeAll before).eraseDups.filter isFit ↔
      (keyId ∈ rest ∧ keyId ∉ before) ∧ isFit keyId = true := by
  rw [List.mem_filter, List.mem_eraseDups, List.removeAll, List.mem_filter]
  simp

theorem last_fit_append_iff (last : (before.eraseDups.filter isFit).getLast? = some chosen) :
    ((before ++ rest).eraseDups.filter isFit).getLast? = some chosen ↔
      ∀ keyId ∈ rest, isFit keyId = true → keyId ∈ before := by
  have listed : chosen ∈ before :=
    List.mem_eraseDups.1 (List.mem_filter.1 (List.mem_of_getLast? last)).1
  rw [last_fit_append, last]
  cases later : ((rest.removeAll before).eraseDups.filter isFit).getLast? with
  | none =>
      rw [List.getLast?_eq_none_iff] at later
      refine iff_of_true rfl fun keyId inRest fit => Decidable.byContradiction fun new => ?_
      have counts := mem_new_fit.2 ⟨⟨inRest, new⟩, fit⟩
      rw [later] at counts
      exact List.not_mem_nil counts
  | some other =>
      rcases mem_new_fit.1 (List.mem_of_getLast? later) with ⟨⟨inRest, new⟩, fit⟩
      refine iff_of_false ?_ fun known => new (known other inRest fit)
      rintro ⟨⟩
      exact new listed

theorem last_fit_concat (last : ((before ++ rest).eraseDups.filter isFit).getLast? = some chosen) :
    ((before ++ [chosen]).eraseDups.filter isFit).getLast? = some chosen := by
  have fit : isFit chosen = true := (List.mem_filter.1 (List.mem_of_getLast? last)).2
  by_cases known : chosen ∈ before
  · have early : (before.eraseDups.filter isFit).getLast? = some chosen := by
      rw [last_fit_append, Option.or_eq_some_iff] at last
      rcases last with later | ⟨_, early⟩
      · exact absurd known (mem_new_fit.1 (List.mem_of_getLast? later)).1.2
      · exact early
    refine (last_fit_append_iff early).2 fun keyId listed _ => ?_
    rw [List.mem_singleton.1 listed]
    exact known
  · have new : [chosen].removeAll before = [chosen] := by
      simp [List.removeAll, known]
    rw [last_fit_append, new]
    simp [List.eraseDups_cons, fit]

theorem last_fit_insert_iff
    (last : ((before ++ [chosen]).eraseDups.filter isFit).getLast? = some chosen) :
    ((before ++ chosen :: behind).eraseDups.filter isFit).getLast? = some chosen ↔
      ∀ keyId ∈ behind, isFit keyId = true → keyId ≠ chosen → keyId ∈ before := by
  rw [List.append_cons, last_fit_append_iff last]
  refine forall₂_congr fun keyId _ => imp_congr_right fun _ => ?_
  rw [List.mem_append, List.mem_singleton, or_comm, Decidable.or_iff_not_imp_left]

theorem last_fit_of_unique (fit : isFit chosen = true)
    (unique : ∀ keyId ∈ before, isFit keyId = true → keyId = chosen) :
    ((before ++ [chosen]).eraseDups.filter isFit).getLast? = some chosen := by
  have counts : chosen ∈ (before ++ [chosen]).eraseDups.filter isFit := by
    simp [List.mem_eraseDups, fit]
  rcases last : ((before ++ [chosen]).eraseDups.filter isFit).getLast? with _ | other
  · rw [List.getLast?_eq_none_iff.1 last] at counts
    exact absurd counts List.not_mem_nil
  · rcases List.mem_filter.1 (List.mem_of_getLast? last) with ⟨listed, fitToo⟩
    rcases List.mem_append.1 (List.mem_eraseDups.1 listed) with early | late
    · rw [unique other early fitToo]
    · rw [List.mem_singleton.1 late]

/-- When a source key is mapped to the last fit key of a mapping, or to the only one,
that key is still the last fit one unless another one is mapped only behind it. -/
theorem last_fit_map_iff {mapping : KeyMapping} (sourceKeyId : String)
    (fit : isFit chosen = true)
    (choice : ((destinationKeyIds mapping).filter isFit).getLast? = some chosen ∨
      ∀ keyId ∈ destinationKeyIds mapping, isFit keyId = true → keyId = chosen) :
    let next := map mapping sourceKeyId chosen
    ((destinationKeyIds next).filter isFit).getLast? = some chosen ↔
      ∀ entry ∈ next.items, isFit entry.2 = true → entry.2 ≠ chosen →
        ∃ earlier ∈ next.items, earlier.2 = entry.2 ∧ earlier.1 < sourceKeyId := by
  intro next
  rcases Ascending.exists_place_eq_append Prod.fst (sourceKeyId, chosen) mapping.items with
    ⟨before, rest, behind, old, new⟩
  replace new : next.items = before ++ (sourceKeyId, chosen) :: behind := new
  have ordered := next.ordered
  rw [new, List.pairwise_append, List.pairwise_cons] at ordered
  rcases ordered with ⟨_, ⟨larger, _⟩, smaller⟩
  have last : ((before.map Prod.snd ++ [chosen]).eraseDups.filter isFit).getLast? =
      some chosen := by
    rcases choice with last | unique
    · rw [destinationKeyIds, old, List.map_append] at last
      exact last_fit_concat last
    · refine last_fit_of_unique fit fun keyId listed => unique keyId ?_
      rw [destinationKeyIds, old, List.map_append]
      exact List.mem_eraseDups.2 (List.mem_append_left _ listed)
  have mappedBefore (keyId : String) :
      keyId ∈ before.map Prod.snd ↔
        ∃ earlier ∈ next.items, earlier.2 = keyId ∧ earlier.1 < sourceKeyId := by
    rw [List.mem_map, new]
    constructor
    · rintro ⟨earlier, listed, same⟩
      exact ⟨earlier, List.mem_append_left _ listed, same,
        smaller earlier listed _ List.mem_cons_self⟩
    · rintro ⟨earlier, listed, same, less⟩
      rcases List.mem_append.1 listed with inBefore | itself | ⟨_, inBehind⟩
      · exact ⟨earlier, inBefore, same⟩
      · exact absurd less (KeyOrder.irrefl sourceKeyId)
      · exact absurd (KeyOrder.trans less (larger earlier inBehind)) (KeyOrder.irrefl _)
  rw [destinationKeyIds, new, List.map_append, List.map_cons, last_fit_insert_iff last, ← new]
  constructor
  · intro known entry listed fit different
    rw [← mappedBefore]
    rw [new] at listed
    rcases List.mem_append.1 listed with inBefore | itself | ⟨_, inBehind⟩
    · exact List.mem_map_of_mem inBefore
    · exact absurd rfl different
    · exact known entry.2 (List.mem_map_of_mem inBehind) fit different
  · intro known keyId listed fit different
    rcases List.mem_map.1 listed with ⟨entry, inBehind, rfl⟩
    rw [mappedBefore]
    refine known entry ?_ fit different
    rw [new]
    exact List.mem_append_right _ (List.mem_cons_of_mem _ inBehind)

end KeyMapping

end BucketReplication
