import BucketReplication.Proofs.Accounts.Front
import BucketReplication.Proofs.Accounts.Index

/-! # How many keys there are

The number of keys on all accounts together. What is put in place of an account changes it
by the keys of the one and the other. So it goes up by one with each new key, as long as its
id is new, and down by one with each key that is deleted. -/

namespace BucketReplication

namespace Account

theorem length_filter_other {α : Type} {id : α → String} {items : List α}
    (distinct : (items.map id).Nodup) (key : String) :
    (items.filter fun other => id other ≠ key).length +
      (items.find? fun other => id other = key).toList.length = items.length := by
  induction items with
  | nil => rfl
  | cons head tail induction =>
      rw [List.map_cons, List.nodup_cons] at distinct
      by_cases here : id head = key
      · subst here
        have others : ∀ other ∈ tail, ¬ id other = id head := fun other listed same =>
          distinct.1 (same ▸ List.mem_map_of_mem listed)
        simpa using others
      · have later := induction distinct.2
        simp [here] at later ⊢
        omega

theorem keyCount_deleteKey {account : Account} (indexed : account.Indexed) (keyId : String) :
    (account.deleteKey keyId).2.keyCount + (account.deleteKey keyId).1.toList.length =
      account.keyCount :=
  length_filter_other indexed.keys keyId

theorem keyCount_addKey {account : Account} {key : ApplicationKey}
    (fresh : account.key? key.id = none) : (account.addKey key).keyCount = account.keyCount + 1 := by
  have behind : (account.addKey key).keys = account.keys ++ [key] := put_of_absent fresh
  rw [keyCount, behind, List.length_append]
  rfl

end Account

namespace Accounts

def keyTotal (accounts : Accounts) : Nat :=
  (accounts.byName.flatMap fun entry => entry.2.keys).length

theorem length_keys_put (name : String) (account : Account)
    (entries : List (String × Account)) :
    ((Account.put Prod.fst (name, account) entries).flatMap fun entry => entry.2.keys).length +
        ((entries.lookup name).getD .empty).keys.length =
      (entries.flatMap fun entry => entry.2.keys).length + account.keys.length := by
  induction entries with
  | nil => simp [Account.put, Account.empty]
  | cons head tail induction =>
      rcases head with ⟨headName, headAccount⟩
      by_cases here : headName = name
      · subst here
        simp only [Account.put, if_true, List.flatMap_cons, List.length_append,
          List.lookup_cons_self, Option.getD_some]
        omega
      · have different : (name == headName) = false := beq_eq_false_iff_ne.2 (Ne.symm here)
        simp only [Account.put, if_neg here, List.flatMap_cons, List.length_append,
          List.lookup_cons, different]
        omega

theorem keyTotal_putAccount (accounts : Accounts) (name : String) (account : Account) :
    (accounts.putAccount name account).keyTotal + (accounts.account name).keyCount =
      accounts.keyTotal + account.keyCount :=
  length_keys_put name account accounts.byName

variable {accounts between after : Accounts} {name : String}

theorem createKey_after {request : KeyRequest} {key : ApplicationKey}
    (created : accounts.createKey name request = (.ok key, after)) :
    after = { accounts.putAccount name ((accounts.account name).addKey key) with
      ids := accounts.ids.advance } := by
  unfold createKey Account.createKey at created
  split at created
  · cases created
  · rename_i result
    split at result
    · cases result
      cases created
      rfl
    · split at result
      · cases result
      · cases result
        cases created
        rfl

theorem updateBucket_after {bucketId : String} {revision : UInt64}
    {settings : ReplicationSettings} {bucket : Bucket}
    (updated : accounts.updateBucket name bucketId revision settings = (.ok bucket, after)) :
    after = accounts.putAccount name ((accounts.account name).putBucket bucket) := by
  rw [updateBucket_eq] at updated
  split at updated
  · cases updated
  · cases updated
  · split at updated
    · cases updated
      rfl
    · cases updated

/-! ## The balance of keys -/

/-- The accounts are in order: what is found was created, and ids lead where they should. -/
structure Tidy (accounts : Accounts) : Prop where
  listed : accounts.Listed
  indexed : accounts.Indexed

theorem tidy_start (ids : List String) : Tidy (start ids) :=
  ⟨listed_start ids, indexed_start ids⟩

/-- So many keys were created and so many deleted, provided that no id was given out
twice. -/
structure Balances (created deleted : Nat) (accounts after : Accounts) : Prop where
  grows : Grows accounts after
  tidy : after.IdsDistinct → accounts.Tidy → after.Tidy
  total : after.IdsDistinct → accounts.Tidy →
    after.keyTotal + deleted = accounts.keyTotal + created

namespace Balances

theorem refl (accounts : Accounts) : Balances 0 0 accounts accounts :=
  ⟨.refl accounts, fun _ tidy => tidy, fun _ _ => rfl⟩

theorem trans {created deleted createdLater deletedLater : Nat}
    (first : Balances created deleted accounts between)
    (second : Balances createdLater deletedLater between after) :
    Balances (created + createdLater) (deleted + deletedLater) accounts after where
  grows := first.grows.trans second.grows
  tidy distinct tidy := second.tidy distinct (first.tidy (second.grows.idsDistinct distinct) tidy)
  total distinct tidy := by
    have distinctBetween := second.grows.idsDistinct distinct
    have totalBetween := first.total distinctBetween tidy
    have totalAfter := second.total distinct (first.tidy distinctBetween tidy)
    omega

end Balances

theorem createBucket_balances (accounts : Accounts) (name bucketName : String) :
    Balances 0 0 accounts (accounts.createBucket name bucketName).2 := by
  rcases created : accounts.createBucket name bucketName with ⟨error | bucket, after⟩
  · cases createBucket_error created
    exact .refl accounts
  · refine ⟨createBucket_grows created, fun distinct tidy => ?_, fun _ _ => ?_⟩
    · exact ⟨createBucket_listed created tidy.listed,
        createBucket_indexed created tidy.indexed distinct⟩
    · rw [createBucket_eq] at created
      split at created
      · cases created
      · cases created
        have total := keyTotal_putAccount accounts name
          ((accounts.account name).addBucket (.new accounts.ids.next bucketName))
        exact Nat.add_right_cancel total

theorem createKey_balances {request : KeyRequest} {key : ApplicationKey}
    (created : accounts.createKey name request = (.ok key, after)) :
    Balances 1 0 accounts after where
  grows := createKey_grows created
  tidy _ tidy := ⟨createKey_listed created tidy.listed, createKey_indexed created tidy.indexed⟩
  total distinct tidy := by
    -- With an id that was in use before, the new key would take the place of another one.
    have fresh : (accounts.account name).key? key.id = none :=
      createKey_fresh created tidy.listed distinct
    have total := keyTotal_putAccount accounts name ((accounts.account name).addKey key)
    rw [Account.keyCount_addKey fresh] at total
    have stored : after.keyTotal =
        (accounts.putAccount name ((accounts.account name).addKey key)).keyTotal := by
      rw [createKey_after created]
      rfl
    omega

theorem deleteKey_balances (accounts : Accounts) (name keyId : String) :
    Balances 0 (accounts.deleteKey name keyId).1.toList.length accounts
      (accounts.deleteKey name keyId).2 where
  grows := deleteKey_grows accounts name keyId
  tidy _ tidy := ⟨deleteKey_listed name keyId tidy.listed, deleteKey_indexed name keyId tidy.indexed⟩
  total _ tidy := by
    have counted := Account.keyCount_deleteKey (tidy.indexed name) keyId
    have total := keyTotal_putAccount accounts name ((accounts.account name).deleteKey keyId).2
    unfold deleteKey
    dsimp only
    omega

theorem updateBucket_balances {bucketId : String} {revision : UInt64}
    {settings : ReplicationSettings} {bucket : Bucket}
    (updated : accounts.updateBucket name bucketId revision settings = (.ok bucket, after)) :
    Balances 0 0 accounts after where
  grows := updateBucket_grows updated
  tidy _ tidy := ⟨updateBucket_listed updated tidy.listed,
    updateBucket_indexed updated tidy.indexed⟩
  total _ _ := by
    have total := keyTotal_putAccount accounts name ((accounts.account name).putBucket bucket)
    rw [updateBucket_after updated]
    exact Nat.add_right_cancel total

theorem ask_balances {call : CallNote} {answer : Except Error call.Answer}
    (asked : gateway.ask call accounts = (answer, after)) :
    Balances (Exchange.created? ⟨call, answer⟩).toList.length 0 accounts after := by
  cases call with
  | getKey account keyId =>
      cases asked
      cases accounts.key? account keyId <;> exact .refl accounts
  | createKey account request =>
      cases answer with
      | error error =>
          cases (createKey_error asked).1
          exact .refl accounts
      | ok key => exact createKey_balances asked
  | getBucketByName account bucketName =>
      cases asked
      exact .refl accounts
  | updateBucket account bucketId revision settings =>
      cases answer with
      | error error =>
          cases updateBucket_error asked
          exact .refl accounts
      | ok bucket => exact updateBucket_balances asked

theorem serves_balances {exchanges : List Exchange}
    (serves : gateway.Serves accounts exchanges after) :
    Balances (exchanges.filterMap Exchange.created?).length 0 accounts after := by
  induction serves with
  | done state => exact .refl state
  | @passed call answer before between after rest asked serves induction =>
      have counted : ((⟨call, answer⟩ :: rest).filterMap Exchange.created?).length =
          (Exchange.created? ⟨call, answer⟩).toList.length +
            (rest.filterMap Exchange.created?).length := by
        rw [List.filterMap_cons]
        cases Exchange.created? ⟨call, answer⟩ <;> simp [Nat.add_comm]
      rw [counted]
      exact (ask_balances asked).trans induction
  | refused call error rest induction =>
      cases call <;> exact induction

end Accounts

end BucketReplication
