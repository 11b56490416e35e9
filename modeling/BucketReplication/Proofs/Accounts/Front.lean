import BucketReplication.Proofs.Accounts.Creation
import BucketReplication.Proofs.Procedure.Conversation

/-! # Gateways in front of accounts

A gateway may stand in front of another one and answer some calls with an error of its own.
All other answers come from the backend behind it, so a conversation still tells what became
of the accounts: they changed only if a key was created or an update was answered with a
record. -/

namespace BucketReplication

namespace Gateway

variable {σ τ : Type}

/-- A gateway in front of another one passes a call on, or answers it with an error and
leaves the backend alone. It can rely on the states that it starts from being proper. -/
structure Fronts (outer : Gateway τ) (inner : Gateway σ) (backend : τ → σ) (proper : τ → Prop) :
    Prop where
  stays : ∀ call before, proper before → proper (outer.ask call before).2
  asks : ∀ call before, proper before →
    let (answer, after) := outer.ask call before
    inner.ask call (backend before) = (answer, backend after) ∨
      (∃ error, answer = .error error) ∧ backend after = backend before

/-- From one state to another the gateway gives these answers, but for those with an error
that something in front of it gives. -/
inductive Serves (inner : Gateway σ) : σ → List Exchange → σ → Prop where
  | done (state : σ) : Serves inner state [] state
  | passed {call : CallNote} {answer : Except Error call.Answer} {before between after : σ}
      {exchanges : List Exchange} (asked : inner.ask call before = (answer, between))
      (rest : Serves inner between exchanges after) :
      Serves inner before (⟨call, answer⟩ :: exchanges) after
  | refused {before after : σ} {exchanges : List Exchange} (call : CallNote) (error : Error)
      (rest : Serves inner before exchanges after) :
      Serves inner before (⟨call, .error error⟩ :: exchanges) after

theorem Fronts.serves {outer : Gateway τ} {inner : Gateway σ} {backend : τ → σ}
    {proper : τ → Prop} (fronts : outer.Fronts inner backend proper) {before after : τ}
    {exchanges : List Exchange} (starts : proper before)
    (answers : outer.Answers before exchanges after) :
    inner.Serves (backend before) exchanges (backend after) := by
  induction answers with
  | done state => exact .done (backend state)
  | @next call answer before between after exchanges asked rest induction =>
      have stays := fronts.stays call before starts
      have asks := fronts.asks call before starts
      rw [asked] at stays asks
      rcases asks with passes | ⟨⟨error, rfl⟩, same⟩
      · exact .passed passes (induction stays)
      · apply Serves.refused
        rw [← same]
        exact induction stays

theorem Fronts.proper_after {outer : Gateway τ} {inner : Gateway σ} {backend : τ → σ}
    {proper : τ → Prop} (fronts : outer.Fronts inner backend proper) {before after : τ}
    {exchanges : List Exchange} (starts : proper before)
    (answers : outer.Answers before exchanges after) : proper after := by
  induction answers with
  | done state => exact starts
  | @next call answer before between after exchanges asked rest induction =>
      have stays := fronts.stays call before starts
      rw [asked] at stays
      exact induction stays

namespace Serves

variable {inner : Gateway σ} {before after : σ} {first second exchanges : List Exchange}

theorem split (serves : inner.Serves before (first ++ second) after) :
    ∃ between, inner.Serves before first between ∧ inner.Serves between second after := by
  induction first generalizing before with
  | nil => exact ⟨before, .done before, serves⟩
  | cons exchange rest induction =>
      cases serves with
      | passed asked later =>
          rcases induction later with ⟨between, served, goesOn⟩
          exact ⟨between, .passed asked served, goesOn⟩
      | refused call error later =>
          rcases induction later with ⟨between, served, goesOn⟩
          exact ⟨between, .refused call error served, goesOn⟩

theorem answered {call : CallNote} {answer : call.Answer}
    (serves : inner.Serves before (⟨call, .ok answer⟩ :: exchanges) after) :
    ∃ between, inner.ask call before = (.ok answer, between) ∧
      inner.Serves between exchanges after := by
  cases serves with
  | passed asked rest => exact ⟨_, asked, rest⟩

end Serves

/-! ## Injected faults -/

theorem disclose_of_open {α : Type} {plan : FaultPlan} (discloses : plan.withholding = [])
    (account : String) (call : Call α) (answer : α) :
    plan.disclose account call answer = answer := by
  cases call <;> simp [FaultPlan.disclose, discloses]

theorem withFaults_fronts (inner : Gateway σ) :
    inner.withFaults.Fronts inner Faulty.backend fun state => state.plan.withholding = [] := by
  constructor
  · intro call before discloses
    unfold ask withFaults
    dsimp only
    split <;> exact discloses
  · intro call before discloses
    unfold ask withFaults
    dsimp only
    split
    · exact .inr ⟨⟨_, rfl⟩, rfl⟩
    · rename_i faults met
      refine .inl (Prod.ext ?_ rfl)
      dsimp only
      have discloses : (⟨faults, before.plan.withholding⟩ : FaultPlan).withholding = [] := discloses
      cases (inner.perform call.account call.call before.backend).result with
      | error error => rfl
      | ok answer => exact congrArg Except.ok (disclose_of_open discloses _ _ _).symm

end Gateway

namespace Accounts

variable {accounts after : Accounts} {exchanges : List Exchange}

theorem ask_unchanged {call : CallNote} {answer : Except Error call.Answer}
    (asked : gateway.ask call accounts = (answer, after))
    (noKey : Exchange.created? ⟨call, answer⟩ = none)
    (noRecord : Exchange.stored? ⟨call, answer⟩ = none) : after = accounts := by
  cases call with
  | getKey account keyId =>
      cases asked
      rfl
  | createKey account request =>
      cases answer with
      | error error => exact (createKey_error asked).1
      | ok key => cases noKey
  | getBucketByName account name =>
      cases asked
      rfl
  | updateBucket account bucketId revision settings =>
      cases answer with
      | error error => exact updateBucket_error asked
      | ok bucket => cases noRecord

theorem serves_unchanged (serves : gateway.Serves accounts exchanges after)
    (noKey : ∀ exchange ∈ exchanges, exchange.created? = none)
    (noRecord : ∀ exchange ∈ exchanges, exchange.stored? = none) : after = accounts := by
  induction serves with
  | done state => rfl
  | passed asked rest induction =>
      rw [List.forall_mem_cons] at noKey noRecord
      have same := ask_unchanged asked noKey.1 noRecord.1
      rw [induction noKey.2 noRecord.2, same]
  | refused call error rest induction =>
      rw [List.forall_mem_cons] at noKey noRecord
      exact induction noKey.2 noRecord.2

theorem serves_lookups {account : String} {keyIds : List String}
    (serves : gateway.Serves accounts exchanges after) (answered : AllAnswered exchanges)
    (calls : exchanges.map Exchange.call = keyIds.map (.getKey account)) :
    exchanges.filterMap Exchange.key? = keyIds.filterMap (accounts.key? account) := by
  induction keyIds generalizing exchanges with
  | nil =>
      rw [List.map_eq_nil_iff.1 calls]
      rfl
  | cons keyId rest induction =>
      rcases List.map_eq_cons_iff.1 calls with ⟨⟨call, answer⟩, later, rfl, same, others⟩
      rw [allAnswered_cons] at answered
      dsimp only at same
      subst same
      cases answer with
      | error error => cases answered.1
      | ok found =>
          rcases serves.answered with ⟨between, asked, goesOn⟩
          cases asked
          rw [List.filterMap_cons, List.filterMap_cons, induction goesOn answered.2 others]
          rfl

end Accounts

end BucketReplication
