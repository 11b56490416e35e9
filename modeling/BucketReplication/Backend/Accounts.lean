import BucketReplication.Backend.Account
import BucketReplication.Text.Quoted

/-! # Several accounts

Accounts by name, together with the supply of ids for new buckets and keys. An
account that was never mentioned is empty. -/

namespace BucketReplication

/-- Ids to hand out: the given ones first, then the numbers from 1 on. -/
structure IdSupply where
  given : List String
  drawn : Nat
deriving DecidableEq, Repr

namespace IdSupply

def numbered (number : Nat) : String :=
  let digits := Text.hexadecimal number
  String.ofList (List.replicate (32 - digits.length) '0') ++ digits

def next (supply : IdSupply) : String :=
  match supply.given with
  | id :: _ => id
  | [] => numbered (supply.drawn + 1)

def advance (supply : IdSupply) : IdSupply :=
  match supply.given with
  | _ :: rest => { supply with given := rest }
  | [] => { supply with drawn := supply.drawn + 1 }

end IdSupply

structure Accounts where
  byName : List (String × Account)
  ids : IdSupply
deriving DecidableEq

namespace Accounts

def start (ids : List String) : Accounts := ⟨[], ⟨ids, 0⟩⟩

def account (accounts : Accounts) (name : String) : Account :=
  (accounts.byName.lookup name).getD .empty

def putAccount (accounts : Accounts) (name : String) (account : Account) : Accounts :=
  { accounts with byName := Account.put Prod.fst (name, account) accounts.byName }

def mention (accounts : Accounts) (name : String) : Accounts :=
  accounts.putAccount name (accounts.account name)

/-- Create a bucket. An id is drawn only if the name is free. -/
def createBucket (accounts : Accounts) (name bucketName : String) :
    Except Error Bucket × Accounts :=
  match (accounts.account name).createBucket accounts.ids.next bucketName with
  | .error error => (.error error, accounts)
  | .ok (bucket, account) =>
    (.ok bucket, { accounts.putAccount name account with ids := accounts.ids.advance })

def createKey (accounts : Accounts) (name : String) (request : KeyRequest) :
    Except Error ApplicationKey × Accounts :=
  match (accounts.account name).createKey accounts.ids.next request with
  | .error error => (.error error, accounts)
  | .ok (key, account) =>
    (.ok key, { accounts.putAccount name account with ids := accounts.ids.advance })

def deleteKey (accounts : Accounts) (name keyId : String) :
    Option ApplicationKey × Accounts :=
  let (deleted, account) := (accounts.account name).deleteKey keyId
  (deleted, accounts.putAccount name account)

def updateBucket (accounts : Accounts) (name bucketId : String) (revision : UInt64)
    (settings : ReplicationSettings) : Except Error Bucket × Accounts :=
  match (accounts.account name).updateBucket bucketId revision settings with
  | .error error => (.error error, accounts)
  | .ok (bucket, account) => (.ok bucket, accounts.putAccount name account)

def gateway : Gateway Accounts where
  perform := fun name call accounts =>
    match call with
    | .getKey keyId =>
      ⟨.ok ((accounts.account name).key? keyId), [], accounts⟩
    | .getBucketByName bucketName =>
      ⟨(accounts.account name).getBucketByName bucketName, [], accounts⟩
    | .createKey request =>
      let (result, next) := accounts.createKey name request
      let events :=
        match result with
        | .ok key => [.keyCreated key.id key.name]
        | .error _ => []
      ⟨result, events, next⟩
    | .updateBucket bucketId revision settings =>
      let (result, next) := accounts.updateBucket name bucketId revision settings
      let events :=
        match result with
        | .ok bucket => [.replicationStored bucket.name bucket.revision]
        | .error _ => []
      ⟨result, events, next⟩

end Accounts

end BucketReplication
