import BucketReplication.Backend.Accounts

/-! # Looking up buckets and keys

What each change to an account does to what is found by id. Everything else
about accounts is derived from these equations. -/

namespace BucketReplication

def Bucket.updated (bucket : Bucket) (settings : ReplicationSettings) : Bucket :=
  { bucket with revision := bucket.revision + 1, replication := some settings }

namespace Account

/-! ## Putting an item in place -/

theorem find?_put {α : Type} (id : α → String) (item : α) (items : List α) (key : String) :
    (put id item items).find? (fun other => id other = key) =
      if id item = key then some item else items.find? (fun other => id other = key) := by
  induction items with
  | nil => by_cases same : id item = key <;> simp [put, same]
  | cons head tail induction =>
      by_cases replaced : id head = id item
      · by_cases same : id item = key <;> simp [put, replaced, same]
      · rw [put, if_neg replaced, List.find?_cons, List.find?_cons, induction]
        by_cases same : id item = key
        · have headOther : id head ≠ key := fun equal => replaced (equal.trans same.symm)
          simp [headOther, same]
        · simp [same]

theorem lookup_put {β : Type} (name : String) (value : β) (entries : List (String × β))
    (key : String) :
    (put Prod.fst (name, value) entries).lookup key =
      if name = key then some value else entries.lookup key := by
  induction entries with
  | nil =>
      by_cases same : name = key
      · simp [put, same]
      · have different : (key == name) = false := beq_eq_false_iff_ne.2 (Ne.symm same)
        simp [put, List.lookup_cons, different, same]
  | cons head tail induction =>
      obtain ⟨headName, headValue⟩ := head
      by_cases replaced : headName = name
      · subst replaced
        by_cases same : headName = key
        · simp [put, same]
        · have different : (key == headName) = false := beq_eq_false_iff_ne.2 (Ne.symm same)
          simp [put, List.lookup_cons, different, same]
      · rw [put, if_neg replaced, List.lookup_cons, List.lookup_cons, induction]
        by_cases same : name = key
        · have different : (key == headName) = false :=
            beq_eq_false_iff_ne.2 fun equal => replaced (equal.symm.trans same.symm)
          simp [different, same]
        · simp [same]

theorem put_of_absent {α : Type} {id : α → String} {item : α} {items : List α}
    (absent : items.find? (fun other => id other = id item) = none) :
    put id item items = items ++ [item] := by
  induction items with
  | nil => rfl
  | cons head tail induction =>
      rw [List.find?_eq_none] at absent
      have different : id head ≠ id item := by
        simpa using absent head List.mem_cons_self
      have later : tail.find? (fun other => id other = id item) = none :=
        List.find?_eq_none.2 fun other listed => absent other (List.mem_cons_of_mem head listed)
      rw [put, if_neg different, induction later]
      rfl

/-! ## One account -/

variable {account after : Account} {id : String}

theorem key?_id {key : ApplicationKey} (found : account.key? id = some key) : key.id = id := by
  simpa using List.find?_some found

theorem bucket?_id {bucket : Bucket} (found : account.bucket? id = some bucket) :
    bucket.id = id := by
  simpa using List.find?_some found

@[simp] theorem key?_addKey (account : Account) (key : ApplicationKey) (id : String) :
    (account.addKey key).key? id = if key.id = id then some key else account.key? id :=
  find?_put ApplicationKey.id key account.keys id

@[simp] theorem bucket?_addKey (account : Account) (key : ApplicationKey) (id : String) :
    (account.addKey key).bucket? id = account.bucket? id := rfl

@[simp] theorem key?_putBucket (account : Account) (bucket : Bucket) (id : String) :
    (account.putBucket bucket).key? id = account.key? id := rfl

@[simp] theorem bucket?_putBucket (account : Account) (bucket : Bucket) (id : String) :
    (account.putBucket bucket).bucket? id =
      if bucket.id = id then some bucket else account.bucket? id :=
  find?_put Bucket.id bucket account.buckets id

@[simp] theorem key?_addBucket (account : Account) (bucket : Bucket) (id : String) :
    (account.addBucket bucket).key? id = account.key? id := rfl

@[simp] theorem bucket?_addBucket (account : Account) (bucket : Bucket) (id : String) :
    (account.addBucket bucket).bucket? id =
      if bucket.id = id then some bucket else account.bucket? id :=
  bucket?_putBucket account bucket id

@[simp] theorem bucket?_deleteKey (account : Account) (keyId id : String) :
    (account.deleteKey keyId).2.bucket? id = account.bucket? id := rfl

@[simp] theorem key?_deleteKey (account : Account) (keyId id : String) :
    (account.deleteKey keyId).2.key? id = if keyId = id then none else account.key? id := by
  unfold deleteKey key?
  rw [List.find?_filter]
  by_cases same : keyId = id
  · simp [same]
  · rw [if_neg same]
    refine congrArg (fun test => List.find? test account.keys) (funext fun key => ?_)
    by_cases named : key.id = id
    · simp [named, Ne.symm same]
    · simp [named]

end Account

end BucketReplication
