import BucketReplication.Document.Reading
import BucketReplication.Document.Writing
import BucketReplication.Json.Numeral

/-! # Reading what was written

A shape is lawful when its parts agree with each other: the names of fields are
different, defaults are values that reading can give, and so on. By a lawful
shape every canonical value is read back from what is written for it, and every
value that is read is canonical. -/

namespace BucketReplication.Document

theorem ok_bind {ε α β : Type} (value : α) (next : α → Except ε β) :
    (Except.ok value >>= next) = next value := rfl

theorem ok_map {ε α β : Type} (value : α) (change : α → β) :
    (change <$> (Except.ok value : Except ε α)) = .ok (change value) := rfl

theorem bind_eq_ok {ε α β : Type} {first : Except ε α} {next : α → Except ε β} {value : β}
    (succeeds : first >>= next = .ok value) :
    ∃ passed, first = .ok passed ∧ next passed = .ok value := by
  cases first with
  | error => cases succeeds
  | ok passed => exact ⟨passed, rfl, succeeds⟩

theorem map_eq_ok {ε α β : Type} {first : Except ε α} {change : α → β} {value : β}
    (succeeds : change <$> first = .ok value) :
    ∃ passed, first = .ok passed ∧ change passed = value := by
  cases first with
  | error => cases succeeds
  | ok passed =>
      rw [ok_map, Except.ok.injEq] at succeeds
      exact ⟨passed, rfl, succeeds⟩

/-- The written form is never null, so a value that is there is told from an
absent one. -/
def Shape.isDefinite : {α : Type} → Shape α → Bool
  | _, .optional _ => false
  | _, .converted inner _ _ => inner.isDefinite
  | _, _ => true

mutual
/-- The value is one that its written form stands for. Where a type is written
as another one, the parts must build the value again. -/
@[simp] def Shape.Canonical : {α : Type} → Shape α → α → Prop
  | _, .text, _ => True
  | _, .flag, _ => True
  | _, .natural _, _ => True
  | _, .choice choices nameOf, value => choices.lookup (nameOf value) = some value
  | _, .optional inner, value => ∀ stored, value = some stored → inner.Canonical stored
  | _, .sequence inner, values => ∀ value ∈ values, inner.Canonical value
  | _, .mapping, _ => True
  | _, .record _ fields, value => fields.Canonical value
  | _, .converted inner build parts, value =>
    build (parts value) = value ∧ inner.Canonical (parts value)

@[simp] def Fields.Canonical : {α δ : Type} → Fields α δ → α → Prop
  | _, _, .done, _ => True
  | _, _, .field _ shape _ rest, (value, others) =>
    shape.Canonical value ∧ rest.Canonical others
end

mutual
/-- The parts of the shape agree with each other. -/
@[simp] def Shape.Lawful : {α : Type} → Shape α → Prop
  | _, .text => True
  | _, .flag => True
  | _, .natural range => range.limit ≤ Json.Numeral.significandLimit
  | _, .choice choices nameOf =>
    ∀ entry ∈ choices, choices.lookup (nameOf entry.2) = some entry.2
  | _, .optional inner => inner.isDefinite = true ∧ inner.Lawful
  | _, .sequence inner => inner.Lawful
  | _, .mapping => True
  | _, .record _ fields => fields.Lawful
  | _, .converted inner build parts =>
    inner.Lawful ∧ ∀ value, inner.Canonical value →
      build (parts (build value)) = build value ∧ inner.Canonical (parts (build value))

@[simp] def Fields.Lawful : {α δ : Type} → Fields α δ → Prop
  | _, _, .done => True
  | _, _, .field name shape default rest =>
    name ∉ rest.names ∧ shape.Lawful ∧
      (∀ value, default = some value → shape.Canonical value) ∧ rest.Lawful
end

theorem Shape.write_ne_null {α : Type} (shape : Shape α) (definite : shape.isDefinite = true)
    (value : α) : shape.write value ≠ .null := by
  cases shape with
  | optional => simp [isDefinite] at definite
  | converted inner build parts => exact inner.write_ne_null definite (parts value)
  | _ => simp [write]

namespace Items

theorem mapM_ofList {α : Type} {read : Value → Except ReadFault α} {write : α → Value}
    (values : List α) (returns : ∀ value ∈ values, read (write value) = .ok value) :
    (ofList (values.map write)).mapM read = .ok values := by
  induction values with
  | nil => rfl
  | cons head tail induction =>
      have first := returns head List.mem_cons_self
      have others := induction fun value inTail => returns value (List.mem_cons_of_mem head inTail)
      rw [List.map_cons, ofList, mapM, first, ok_bind, others]
      rfl

theorem all_of_mapM {α : Type} {read : Value → Except ReadFault α} {holds : α → Prop}
    (each : ∀ value stored, read value = .ok stored → holds stored)
    {items : Items} {values : List α} (succeeded : items.mapM read = .ok values) :
    ∀ value ∈ values, holds value := by
  fun_induction mapM read items generalizing values with
  | case1 => cases succeeded; simp
  | case2 => cases succeeded
  | case3 value rest induction =>
      rcases bind_eq_ok succeeded with ⟨first, found, succeeded⟩
      rcases bind_eq_ok succeeded with ⟨others, foundOthers, succeeded⟩
      cases succeeded
      simpa using ⟨each value first found, induction foundOthers⟩

end Items

namespace Members

def names : Members → List (Option String)
  | .member name _ rest => name :: rest.names
  | _ => []

theorem foldM_acceptEntry (entries met : List (String × String)) :
    (ofList (entries.map fun (name, content) => (name, .text (some content)))).foldM
      acceptEntry met = .ok (met ++ entries) := by
  induction entries generalizing met with
  | nil => rw [List.append_nil]; rfl
  | cons entry tail induction =>
      have first : acceptEntry entry.1 (.text (some entry.2)) met = .ok (met ++ [entry]) := rfl
      rw [List.map_cons, ofList, foldM, first, ok_bind, induction, List.append_assoc,
        List.singleton_append]

theorem foldM_keeps {δ : Type} {accept : String → Value → δ → Except ReadFault δ}
    {holds : δ → Prop}
    (step : ∀ name value draft next, holds draft → accept name value draft = .ok next → holds next)
    {members : Members} {draft final : δ} (start : holds draft)
    (succeeded : members.foldM accept draft = .ok final) : holds final := by
  fun_induction foldM accept members draft with
  | case1 => cases succeeded; exact start
  | case2 => cases succeeded
  | case3 => cases succeeded
  | case4 name value rest draft induction =>
      rcases bind_eq_ok succeeded with ⟨next, accepted, succeeded⟩
      exact induction next (step name value draft next start accepted) succeeded

end Members

namespace Choice

theorem mem_of_pick {α : Type} {choices : List (String × α)} {name : String} {chosen : α}
    (picked : pick choices name = .ok chosen) : (name, chosen) ∈ choices := by
  rw [pick] at picked
  split at picked
  · rename_i found
    cases picked
    rcases List.lookup_eq_some_iff.1 found with ⟨before, after, listed, -⟩
    rw [listed]
    exact List.mem_append_right before List.mem_cons_self
  · cases picked

theorem mem_of_read {α : Type} {format : Format} {choices : List (String × α)} {value : Value}
    {chosen : α} (succeeded : read format choices value = .ok chosen) :
    ∃ name, (name, chosen) ∈ choices := by
  unfold read at succeeded
  split at succeeded
  · exact ⟨_, mem_of_pick succeeded⟩
  · split at succeeded
    · unfold ofMembers at succeeded
      split at succeeded
      · rcases bind_eq_ok succeeded with ⟨picked, found, succeeded⟩
        split at succeeded
        · cases succeeded
          exact ⟨_, mem_of_pick found⟩
        all_goals cases succeeded
      · cases succeeded
    · unfold ofTable at succeeded
      split at succeeded
      · rcases bind_eq_ok succeeded with ⟨picked, found, succeeded⟩
        split at succeeded
        · cases succeeded
          exact ⟨_, mem_of_pick found⟩
        · cases succeeded
          exact ⟨_, mem_of_pick found⟩
        · cases succeeded
      · cases succeeded
  · cases succeeded

end Choice

namespace Fields

def filled : {α δ : Type} → Fields α δ → α → δ
  | _, _, .done, _ => ()
  | _, _, .field _ _ _ rest, (value, others) => (some value, rest.filled others)

theorem complete_filled {α δ : Type} (fields : Fields α δ) (value : α) :
    fields.complete (fields.filled value) = .ok value := by
  cases fields with
  | done => rfl
  | field name shape default rest =>
      rw [filled, complete, Option.some_or, complete_filled rest]
      rfl

theorem names_write {α δ : Type} (fields : Fields α δ) (value : α) :
    (fields.write value).names = fields.names.map some := by
  cases fields with
  | done => simp [write, Members.names, names]
  | field name shape default rest =>
      rw [write, Members.names, names_write rest, names, List.map_cons]

theorem accept_first {format : Format} {α β δ : Type} (name : String) (shape : Shape α)
    (default : Option α) (rest : Fields β δ) (value : Value) (others : δ) :
    (field name shape default rest).accept format name value (none, others) =
      (fun stored => (some stored, others)) <$> shape.read format value := by
  rw [accept.eq_def]
  simp only [if_true]
  cases shape.read format value <;> rfl

theorem accept_repeated {format : Format} {α β δ : Type} (name : String) (shape : Shape α)
    (default : Option α) (rest : Fields β δ) (value : Value) (met : α) (others : δ) :
    (field name shape default rest).accept format name value (some met, others) =
      .error (.duplicateField name) := by
  rw [accept.eq_def]
  simp only [if_true]

theorem accept_other {format : Format} {α β δ : Type} {name other : String}
    (different : other ≠ name) (shape : Shape α) (default : Option α) (rest : Fields β δ)
    (value : Value) (met : Option α) (others : δ) :
    (field name shape default rest).accept format other value (met, others) =
      (fun remaining => (met, remaining)) <$> rest.accept format other value others := by
  rw [accept.eq_def]
  simp only [if_neg different]
  cases rest.accept format other value others <;> rfl

theorem foldM_accept_rest {format : Format} {α β δ : Type} {name : String} {shape : Shape α}
    {default : Option α} {rest : Fields β δ} (members : Members)
    (absent : some name ∉ members.names) (met : Option α) (others : δ) :
    members.foldM ((Fields.field name shape default rest).accept format) (met, others) =
      (fun remaining => (met, remaining)) <$> members.foldM (rest.accept format) others := by
  fun_induction Members.foldM (rest.accept format) members others with
  | case1 => rfl
  | case2 => rfl
  | case3 => rfl
  | case4 other value following draft induction =>
      rw [Members.names, List.mem_cons, not_or] at absent
      have different : other ≠ name := fun same => absent.1 (congrArg some same.symm)
      rw [Members.foldM, accept_other different]
      cases accepted : rest.accept format other value draft with
      | error => rfl
      | ok next =>
          exact induction next absent.2

end Fields

namespace Fields

def Drafted : {α δ : Type} → Fields α δ → δ → Prop
  | _, _, .done, _ => True
  | _, _, .field _ shape _ rest, (met, others) =>
    (∀ value, met = some value → shape.Canonical value) ∧ rest.Drafted others

theorem drafted_blank {α δ : Type} (fields : Fields α δ) : fields.Drafted fields.blank := by
  cases fields with
  | done => trivial
  | field name shape default rest => exact ⟨by simp, rest.drafted_blank⟩

theorem canonical_of_complete : {α δ : Type} → (fields : Fields α δ) → fields.Lawful →
    {draft : δ} → fields.Drafted draft → {value : α} → fields.complete draft = .ok value →
    fields.Canonical value
  | _, _, .done, _, _, _, _, _ => trivial
  | _, _, .field name shape default rest, lawful, (met, others), drafted, value, completed => by
      rcases lawful with ⟨-, -, canonicalDefault, lawfulRest⟩
      rw [complete] at completed
      split at completed
      · cases completed
      · rename_i stored chosen
        rcases bind_eq_ok completed with ⟨remaining, completedRest, completed⟩
        cases completed
        refine ⟨?_, rest.canonical_of_complete lawfulRest drafted.2 completedRest⟩
        rcases Option.or_eq_some_iff.1 chosen with found | ⟨-, found⟩
        · exact drafted.1 stored found
        · exact canonicalDefault stored found

end Fields

mutual
theorem Shape.canonical_of_read (format : Format) : {α : Type} → (shape : Shape α) →
    shape.Lawful → {tree : Value} → {value : α} → shape.read format tree = .ok value →
    shape.Canonical value
  | _, .text, _, _, _, _ => trivial
  | _, .flag, _, _, _, _ => trivial
  | _, .natural _, _, _, _, _ => trivial
  | _, .choice choices nameOf, lawful, _, value, succeeded => by
      rw [Shape.read] at succeeded
      rcases Choice.mem_of_read succeeded with ⟨name, listed⟩
      exact lawful (name, value) listed
  | _, .optional inner, lawful, tree, value, succeeded => by
      rw [Shape.read.eq_def] at succeeded
      dsimp only at succeeded
      split at succeeded
      · cases succeeded
        simp
      · rcases map_eq_ok succeeded with ⟨stored, found, rfl⟩
        rintro _ ⟨⟩
        exact inner.canonical_of_read format lawful.2 found
  | _, .sequence inner, lawful, _, values, succeeded => by
      rw [Shape.read.eq_def] at succeeded
      dsimp only at succeeded
      split at succeeded
      · exact Items.all_of_mapM
          (fun _ _ found => inner.canonical_of_read format lawful found) succeeded
      · cases succeeded
  | _, .mapping, _, _, _, _ => trivial
  | _, .record name fields, lawful, _, value, succeeded => by
      rw [Shape.read.eq_def] at succeeded
      dsimp only at succeeded
      split at succeeded
      · rcases bind_eq_ok succeeded with ⟨draft, folded, completed⟩
        have drafted := Members.foldM_keeps
          (fun _ _ _ _ => fields.drafted_of_accept format lawful) fields.drafted_blank folded
        exact fields.canonical_of_complete lawful drafted completed
      · exact fields.canonical_of_ofItems format lawful succeeded
      · exact fields.canonical_of_complete lawful fields.drafted_blank succeeded
      · cases succeeded
  | _, .converted inner build parts, lawful, _, value, succeeded => by
      rw [Shape.read] at succeeded
      rcases map_eq_ok succeeded with ⟨stored, found, rfl⟩
      exact lawful.2 stored (inner.canonical_of_read format lawful.1 found)

theorem Fields.drafted_of_accept (format : Format) : {α δ : Type} → (fields : Fields α δ) →
    fields.Lawful → {name : String} → {value : Value} → {draft next : δ} →
    fields.Drafted draft → fields.accept format name value draft = .ok next →
    fields.Drafted next
  | _, _, .done, _, _, _, _, _, _, _ => trivial
  | _, _, .field fieldName shape default rest, lawful, name, value, (met, others), next, drafted,
      accepted => by
      by_cases same : name = fieldName
      · subst same
        cases met with
        | some met =>
            rw [Fields.accept_repeated] at accepted
            cases accepted
        | none =>
            rw [Fields.accept_first] at accepted
            rcases map_eq_ok accepted with ⟨stored, found, rfl⟩
            refine ⟨?_, drafted.2⟩
            rintro _ ⟨⟩
            exact shape.canonical_of_read format lawful.2.1 found
      · rw [Fields.accept_other same] at accepted
        rcases map_eq_ok accepted with ⟨remaining, acceptedRest, rfl⟩
        exact ⟨drafted.1, rest.drafted_of_accept format lawful.2.2.2 drafted.2 acceptedRest⟩

theorem Fields.canonical_of_ofItems (format : Format) : {α δ : Type} → (fields : Fields α δ) →
    fields.Lawful → {record : String} → {fieldCount index : Nat} → {items : Items} →
    {value : α} → fields.ofItems format record fieldCount index items = .ok value →
    fields.Canonical value
  | _, _, .done, _, _, _, _, _, _, _ => trivial
  | _, _, .field name shape default rest, lawful, record, fieldCount, index, items, value,
      succeeded => by
      rw [Fields.ofItems.eq_def] at succeeded
      dsimp only at succeeded
      split at succeeded
      · cases succeeded
      · rcases bind_eq_ok succeeded with ⟨stored, found, succeeded⟩
        rcases bind_eq_ok succeeded with ⟨remaining, foundRest, succeeded⟩
        cases succeeded
        exact ⟨shape.canonical_of_read format lawful.2.1 found,
          rest.canonical_of_ofItems format lawful.2.2.2 foundRest⟩
      · split at succeeded
        · cases succeeded
        · rename_i stored
          rcases bind_eq_ok succeeded with ⟨remaining, foundRest, succeeded⟩
          cases succeeded
          exact ⟨lawful.2.2.1 stored rfl,
            rest.canonical_of_ofItems format lawful.2.2.2 foundRest⟩
end

mutual
theorem Shape.read_write (format : Format) : {α : Type} → (shape : Shape α) → shape.Lawful →
    (value : α) → shape.Canonical value → shape.read format (shape.write value) = .ok value
  | _, .text, _, content, _ => by simp [Shape.write, Shape.read]
  | _, .flag, _, isSet, _ => by simp [Shape.write, Shape.read]
  | _, .natural range, _, value, _ => by
      have below := range.toNat_lt value
      simp [Shape.write, Shape.read, NaturalRange.read, below, range.ofNat_toNat]
  | _, .choice choices nameOf, _, value, canonical => by
      rw [Shape.Canonical] at canonical
      simp [Shape.write, Shape.read, Choice.read, Choice.pick, canonical]
  | _, .optional inner, _, none, _ => by simp [Shape.write, Shape.read]
  | _, .optional inner, lawful, some stored, canonical => by
      have notNull := inner.write_ne_null lawful.1 stored
      have returns := inner.read_write format lawful.2 stored (canonical stored rfl)
      rw [Shape.write, Shape.read, returns, ok_map]
      exact notNull
  | _, .sequence inner, lawful, values, canonical => by
      rw [Shape.write, Shape.read]
      exact Items.mapM_ofList values fun stored member =>
        inner.read_write format lawful stored (canonical stored member)
  | _, .mapping, _, entries, _ => by
      rw [Shape.write, Shape.read]
      exact Members.foldM_acceptEntry entries []
  | _, .record name fields, lawful, value, canonical => by
      have folded := fields.foldM_write format lawful value canonical
      rw [Shape.write, Shape.read, folded, ok_bind, fields.complete_filled]
  | _, .converted inner build parts, lawful, value, canonical => by
      have returns := inner.read_write format lawful.1 (parts value) canonical.2
      rw [Shape.write, Shape.read, returns, ok_map, canonical.1]

theorem Fields.foldM_write (format : Format) : {α δ : Type} → (fields : Fields α δ) →
    fields.Lawful → (value : α) → fields.Canonical value →
    (fields.write value).foldM (fields.accept format) fields.blank = .ok (fields.filled value)
  | _, _, .done, _, _, _ => rfl
  | _, _, .field name shape default rest, lawful, (value, others), canonical => by
      have first := shape.read_write format lawful.2.1 value canonical.1
      have following := rest.foldM_write format lawful.2.2.2 others canonical.2
      have absent : some name ∉ (rest.write others).names := by
        simpa [Fields.names_write] using lawful.1
      rw [Fields.write, Members.foldM, Fields.blank, Fields.accept_first, first, ok_map, ok_bind,
        Fields.foldM_accept_rest _ absent, following]
      rfl
end

end BucketReplication.Document
