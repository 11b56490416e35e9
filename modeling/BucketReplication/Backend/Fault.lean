import BucketReplication.Backend.Gateway

/-! # Injected faults

A gateway in front of another one that answers some calls with an error instead
of passing them on, as a plan says. It can also leave the settings out of the
answers to updates. -/

namespace BucketReplication

inductive Operation where
  | getKey
  | createKey
  | getBucketByName
  | updateBucket
deriving DecidableEq, Repr

namespace Operation

def all : List Operation := [.getKey, .createKey, .getBucketByName, .updateBucket]

def name : Operation → String
  | .getKey => "get_key"
  | .createKey => "create_key"
  | .getBucketByName => "get_bucket_by_name"
  | .updateBucket => "update_bucket"

def ofName? (name : String) : Option Operation :=
  all.find? fun operation => operation.name = name

end Operation

def Call.operation {α : Type} : Call α → Operation
  | .getKey _ => .getKey
  | .createKey _ => .createKey
  | .getBucketByName _ => .getBucketByName
  | .updateBucket .. => .updateBucket

/-- An error for some calls of one operation on one account: those that come
after `skip` others, without end or as many as are left. -/
structure Fault where
  account : String
  operation : Operation
  skip : Nat
  left : Option Nat
  error : Error
deriving DecidableEq, Repr

structure FaultPlan where
  faults : List Fault
  /-- The accounts that leave the settings out of the answers to updates. -/
  withholding : List String
deriving DecidableEq, Repr

namespace Fault

def meet (fault : Fault) : Option Error × Fault :=
  match fault.skip, fault.left with
  | skip + 1, _ => (none, { fault with skip })
  | 0, none => (some fault.error, fault)
  | 0, some (left + 1) => (some fault.error, { fault with left := some left })
  | 0, some 0 => (none, fault)

/-- Go through the faults in their order up to the first that answers a call. -/
def meetAll (account : String) (operation : Operation) :
    List Fault → Option Error × List Fault
  | [] => (none, [])
  | fault :: rest =>
    if fault.account = account ∧ fault.operation = operation then
      match fault.meet with
      | (some error, remaining) => (some error, remaining :: rest)
      | (none, remaining) =>
        let (answer, others) := meetAll account operation rest
        (answer, remaining :: others)
    else
      let (answer, others) := meetAll account operation rest
      (answer, fault :: others)

end Fault

namespace FaultPlan

def empty : FaultPlan := ⟨[], []⟩

def add (plan : FaultPlan) (fault : Fault) : FaultPlan :=
  { plan with faults := plan.faults ++ [fault] }

def clear (plan : FaultPlan) (account : String) : FaultPlan :=
  { plan with faults := plan.faults.filter fun fault => fault.account ≠ account }

def withhold (plan : FaultPlan) (account : String) (value : Bool) : FaultPlan :=
  let others := plan.withholding.filter (· ≠ account)
  { plan with withholding := if value then account :: others else others }

def disclose {α : Type} (plan : FaultPlan) (account : String) (call : Call α) (answer : α) :
    α :=
  match call with
  | .updateBucket .. =>
    if plan.withholding.contains account then { answer with replication := none } else answer
  | _ => answer

end FaultPlan

structure Faulty (σ : Type) where
  plan : FaultPlan
  backend : σ

namespace Gateway

def withFaults {σ : Type} (inner : Gateway σ) : Gateway (Faulty σ) where
  perform := fun account call state =>
    match Fault.meetAll account call.operation state.plan.faults with
    | (some error, faults) =>
      ⟨.error error, [], { state with plan := { state.plan with faults } }⟩
    | (none, faults) =>
      let plan := { state.plan with faults }
      let reply := inner.perform account call state.backend
      ⟨reply.result.map (plan.disclose account call), reply.events,
        { plan, backend := reply.state }⟩

end Gateway

end BucketReplication
