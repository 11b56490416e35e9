import BucketReplication.Backend.Fault
import BucketReplication.Proofs.Procedure.Trace

/-! # Conversations

What passes between a procedure and a backend of any kind: the calls in their order, each
with the answer to it. A procedure that heeds the answers makes no more calls once one was
answered with an error, and that error is its result. -/

namespace BucketReplication

namespace CallNote

def account : CallNote → String
  | .getKey account _ => account
  | .createKey account _ => account
  | .getBucketByName account _ => account
  | .updateBucket account .. => account

abbrev Answer : CallNote → Type
  | .getKey .. => Option ApplicationKey
  | .createKey .. => ApplicationKey
  | .getBucketByName .. => Bucket
  | .updateBucket .. => Bucket

def call : (note : CallNote) → Call note.Answer
  | .getKey _ keyId => .getKey keyId
  | .createKey _ request => .createKey request
  | .getBucketByName _ name => .getBucketByName name
  | .updateBucket _ bucketId revision settings => .updateBucket bucketId revision settings

def operation (note : CallNote) : Operation := note.call.operation

theorem note_call (note : CallNote) : note.call.note note.account = note := by
  cases note <;> rfl

end CallNote

/-- A call and the answer to it. -/
structure Exchange where
  call : CallNote
  answer : Except Error call.Answer

namespace Exchange

def error? (exchange : Exchange) : Option Error :=
  match exchange.answer with
  | .error error => some error
  | .ok _ => none

def key? : Exchange → Option ApplicationKey
  | ⟨.getKey .., .ok found⟩ => found
  | ⟨.createKey .., .ok key⟩ => some key
  | _ => none

def created? : Exchange → Option ApplicationKey
  | ⟨.createKey .., .ok key⟩ => some key
  | _ => none

def stored? : Exchange → Option Bucket
  | ⟨.updateBucket .., .ok bucket⟩ => some bucket
  | _ => none

variable {exchange : Exchange}

theorem created?_eq_none (other : exchange.call.operation ≠ .createKey) :
    exchange.created? = none := by
  rcases exchange with ⟨call, answer⟩
  cases call with
  | createKey => exact absurd rfl other
  | _ => rfl

theorem stored?_eq_none (other : exchange.call.operation ≠ .updateBucket) :
    exchange.stored? = none := by
  rcases exchange with ⟨call, answer⟩
  cases call with
  | updateBucket => exact absurd rfl other
  | _ => rfl

end Exchange

def AllAnswered (exchanges : List Exchange) : Prop :=
  ∀ exchange ∈ exchanges, exchange.error? = none

instance (exchanges : List Exchange) : Decidable (AllAnswered exchanges) :=
  inferInstanceAs (Decidable (∀ exchange ∈ exchanges, exchange.error? = none))

@[simp] theorem allAnswered_nil : AllAnswered [] :=
  List.forall_mem_nil _

@[simp] theorem allAnswered_cons {exchange : Exchange} {exchanges : List Exchange} :
    AllAnswered (exchange :: exchanges) ↔ exchange.error? = none ∧ AllAnswered exchanges :=
  List.forall_mem_cons

@[simp] theorem allAnswered_append {first second : List Exchange} :
    AllAnswered (first ++ second) ↔ AllAnswered first ∧ AllAnswered second :=
  List.forall_mem_append

/-- Some calls were made, in order: all of them, unless one failed. -/
structure MakesCalls (calls : List CallNote) (exchanges : List Exchange) : Prop where
  inOrder : exchanges.map Exchange.call <+: calls
  all : AllAnswered exchanges → exchanges.map Exchange.call = calls

namespace MakesCalls

variable {calls : List CallNote} {call : CallNote} {exchanges : List Exchange}
  {exchange : Exchange}

theorem whole (same : exchanges.map Exchange.call = calls) : MakesCalls calls exchanges :=
  ⟨same ▸ List.prefix_rfl, fun _ => same⟩

theorem cons (same : exchange.call = call) (makes : MakesCalls calls exchanges) :
    MakesCalls (call :: calls) (exchange :: exchanges) where
  inOrder := by simpa [same] using makes.inOrder
  all answered := by simpa [same] using makes.all (allAnswered_cons.1 answered).2

theorem refused {error : Error} (same : exchange.call = call)
    (failed : exchange.error? = some error) : MakesCalls (call :: calls) [exchange] where
  inOrder := by simp [same]
  all answered := by simp [failed] at answered

theorem single (makes : MakesCalls calls exchanges) (one : calls.length ≤ 1) :
    exchanges.map Exchange.call = calls := by
  cases exchanges with
  | nil => exact makes.all allAnswered_nil
  | cons first rest =>
      apply makes.inOrder.eq_of_length_le
      simp
      omega

end MakesCalls

/-- A result heeds the answers that led to it. The first error is the last answer, and it
is the result. Any other error that results is one of its own. -/
structure Heeds {α : Type} (own : Error → Prop) (exchanges : List Exchange)
    (result : Except Error α) : Prop where
  stops : ∀ earlier exchange later error, exchanges = earlier ++ exchange :: later →
    exchange.error? = some error → later = [] ∧ result = .error error
  blames : ∀ error, result = .error error →
    (∃ last, exchanges.getLast? = some last ∧ last.error? = some error) ∨ own error

namespace Heeds

variable {α β : Type} {own other : Error → Prop} {exchanges later : List Exchange}
  {exchange : Exchange} {result : Except Error α} {error : Error}

theorem silent (owns : ∀ error, result = .error error → own error) : Heeds own [] result where
  stops earlier exchange later _ same _ := by simp at same
  blames error failed := .inr (owns error failed)

theorem passed (fails : ∀ error, exchange.error? = some error ↔ result = .error error) :
    Heeds own [exchange] result := by
  constructor
  · intro earlier refused later error same failed
    rcases List.append_eq_singleton_iff.1 same.symm with ⟨_, split⟩ | ⟨_, none⟩
    · cases split
      exact ⟨rfl, (fails error).1 failed⟩
    · cases none
  · intro error failed
    exact .inl ⟨exchange, rfl, (fails error).2 failed⟩

theorem cons (answered : exchange.error? = none) (heeds : Heeds own exchanges result) :
    Heeds own (exchange :: exchanges) result := by
  constructor
  · intro earlier refused later error same failed
    cases earlier with
    | nil =>
        cases same
        cases answered.symm.trans failed
    | cons first rest =>
        cases same
        exact heeds.stops rest refused later error rfl failed
  · intro error failed
    rcases heeds.blames error failed with ⟨last, isLast, refused⟩ | owned
    · refine .inl ⟨last, ?_, refused⟩
      simp [List.getLast?_cons, isLast]
    · exact .inr owned

theorem append (answered : AllAnswered exchanges) (heeds : Heeds own later result) :
    Heeds own (exchanges ++ later) result := by
  induction exchanges with
  | nil => exact heeds
  | cons first rest induction =>
      rw [allAnswered_cons] at answered
      exact .cons answered.1 (induction answered.2)

theorem converted {next : Except Error β} (heeds : Heeds own exchanges result)
    (fails : ∀ error, result = .error error ↔ next = .error error)
    (owns : ∀ error, own error → other error) : Heeds other exchanges next where
  stops earlier exchange later error same refused :=
    (heeds.stops earlier exchange later error same refused).imp_right (fails error).1
  blames error failed :=
    (heeds.blames error ((fails error).2 failed)).imp_right (owns error)

theorem allAnswered {value : α} (heeds : Heeds own exchanges (.ok value)) :
    AllAnswered exchanges := by
  intro exchange listed
  rcases List.append_of_mem listed with ⟨earlier, later, same⟩
  cases failed : exchange.error? with
  | none => rfl
  | some error => cases (heeds.stops earlier exchange later error same failed).2

theorem not_allAnswered (heeds : Heeds (fun _ => False) exchanges
    (.error error : Except Error α)) : ¬ AllAnswered exchanges := by
  intro answered
  rcases heeds.blames error rfl with ⟨last, isLast, refused⟩ | impossible
  · cases (answered last (List.mem_of_getLast? isLast)).symm.trans refused
  · exact impossible

end Heeds

namespace Gateway

variable {σ : Type} {gateway : Gateway σ}

def ask (gateway : Gateway σ) (note : CallNote) (before : σ) : Outcome σ note.Answer :=
  let reply := gateway.perform note.account note.call before
  (reply.result, reply.state)

inductive Answers (gateway : Gateway σ) : σ → List Exchange → σ → Prop where
  | done (state : σ) : Answers gateway state [] state
  | next {call : CallNote} {answer : Except Error call.Answer} {before between after : σ}
      {exchanges : List Exchange} (asked : gateway.ask call before = (answer, between))
      (rest : Answers gateway between exchanges after) :
      Answers gateway before (⟨call, answer⟩ :: exchanges) after

namespace Answers

variable {before between after : σ} {first second : List Exchange}

theorem append (answers : gateway.Answers before first between)
    (goesOn : gateway.Answers between second after) :
    gateway.Answers before (first ++ second) after := by
  induction answers with
  | done state => exact goesOn
  | next asked rest induction => exact .next asked (induction goesOn)

end Answers

end Gateway

namespace Procedure

variable {σ α β : Type} {gateway : Gateway σ} {before between : σ}

/-- A procedure, and the same one with its calls noted down, come to an outcome by a
conversation with a gateway: these calls were noted, and the gateway gave these answers. -/
structure Conducts (gateway : Gateway σ) (procedure : Procedure σ α)
    (noted : Procedure (Noted σ) α) (before : σ) (outcome : Outcome σ α)
    (exchanges : List Exchange) : Prop where
  yields : procedure.Yields before outcome
  leaves : ∃ trace, noted.Leaves before outcome trace ∧ trace.calls = exchanges.map Exchange.call
  answers : gateway.Answers before exchanges outcome.2

namespace Conducts

variable {outcome : Outcome σ β} {exchanges later : List Exchange}

theorem of_eq {procedure : Procedure σ β} {noted : Procedure (Noted σ) β}
    (conducts : Conducts gateway procedure noted before outcome exchanges)
    (same : exchanges = later) : Conducts gateway procedure noted before outcome later :=
  same ▸ conducts

theorem pure (value : α) :
    Conducts gateway (Pure.pure value) (Pure.pure value) before (.ok value, before) [] :=
  ⟨.pure value, ⟨.empty, .pure value, rfl⟩, .done before⟩

theorem throw (error : Error) :
    Conducts (α := α) gateway (MonadExcept.throw error) (MonadExcept.throw error) before
      (.error error, before) [] :=
  ⟨.throw error, ⟨.empty, .throw error, rfl⟩, .done before⟩

theorem ask {note : CallNote} {answer : Except Error note.Answer}
    (asked : gateway.ask note before = (answer, between)) :
    Conducts gateway (call gateway note.account note.call)
      (call gateway.noting note.account note.call) before (answer, between)
      [⟨note, answer⟩] := by
  have yields : (call gateway note.account note.call).Yields before (gateway.ask note before) :=
    .call gateway note.account note.call
  have leaves : (call gateway.noting note.account note.call).Leaves before
      (gateway.ask note before) _ := .call gateway note.account note.call before
  rw [note.note_call] at leaves
  rw [asked] at yields leaves
  exact ⟨yields, ⟨_, leaves, rfl⟩, .next asked (.done between)⟩

section

variable {first : Procedure σ α} {next : α → Procedure σ β} {firstNoted : Procedure (Noted σ) α}
  {nextNoted : α → Procedure (Noted σ) β}

theorem bind_ok {value : α}
    (succeeds : Conducts gateway first firstNoted before (.ok value, between) exchanges)
    (goesOn : Conducts gateway (next value) (nextNoted value) between outcome later) :
    Conducts gateway (first >>= next) (firstNoted >>= nextNoted) before outcome
      (exchanges ++ later) := by
  rcases succeeds.leaves with ⟨trace, leaves, calls⟩
  rcases goesOn.leaves with ⟨laterTrace, leavesLater, callsLater⟩
  refine ⟨succeeds.yields.bind_ok goesOn.yields, ⟨_, leaves.bind_ok leavesLater, ?_⟩,
    succeeds.answers.append goesOn.answers⟩
  simp [calls, callsLater]

theorem bind_error {error : Error}
    (fails : Conducts gateway first firstNoted before (.error error, between) exchanges) :
    Conducts gateway (first >>= next) (firstNoted >>= nextNoted) before
      (.error error, between) exchanges := by
  rcases fails.leaves with ⟨trace, leaves, calls⟩
  exact ⟨fails.yields.bind_error, ⟨trace, leaves.bind_error, calls⟩, fails.answers⟩

theorem followed {next : α → Procedure σ α} {nextNoted : α → Procedure (Noted σ) α}
    {outcome : Outcome σ α} (conducts : Conducts gateway first firstNoted before outcome exchanges)
    (keeps : ∀ value between,
      Conducts gateway (next value) (nextNoted value) between (.ok value, between) []) :
    Conducts gateway (first >>= next) (firstNoted >>= nextNoted) before outcome exchanges := by
  rcases outcome with ⟨error | value, between⟩
  · exact .bind_error conducts
  · exact .of_eq (.bind_ok conducts (keeps value between)) (List.append_nil _)

end

variable {next : Unit → Procedure σ β} {nextNoted : Unit → Procedure (Noted σ) β}

theorem report (event : Event)
    (goesOn : Conducts gateway (next ()) (nextNoted ()) before outcome exchanges) :
    Conducts gateway (Procedure.report event >>= next) (Procedure.report event >>= nextNoted)
      before outcome exchanges := by
  rcases goesOn.leaves with ⟨trace, leaves, calls⟩
  exact ⟨.after_report goesOn.yields, ⟨_, .report event leaves, calls⟩, goesOn.answers⟩

theorem count (metric : Metric)
    (goesOn : Conducts gateway (next ()) (nextNoted ()) before outcome exchanges) :
    Conducts gateway (Procedure.count metric >>= next) (Procedure.count metric >>= nextNoted)
      before outcome exchanges := by
  rcases goesOn.leaves with ⟨trace, leaves, calls⟩
  exact ⟨.after_count goesOn.yields, ⟨_, .count metric leaves, calls⟩, goesOn.answers⟩

end Conducts

end Procedure

end BucketReplication
