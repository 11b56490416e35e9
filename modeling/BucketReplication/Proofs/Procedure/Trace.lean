import BucketReplication.Proofs.Procedure.Outcome

/-! # Traces of procedures

What a procedure does on the way to its outcome: the calls that it makes, the events
that it reports and what it counts. Calls are seen by a gateway that notes each of
them down before it passes it on. -/

namespace BucketReplication

inductive CallNote where
  | getKey (account keyId : String)
  | createKey (account : String) (request : KeyRequest)
  | getBucketByName (account name : String)
  | updateBucket (account bucketId : String) (revision : UInt64)
      (settings : ReplicationSettings)
deriving DecidableEq

def Call.note {α : Type} (account : String) : Call α → CallNote
  | .getKey keyId => .getKey account keyId
  | .createKey request => .createKey account request
  | .getBucketByName name => .getBucketByName account name
  | .updateBucket bucketId revision settings =>
    .updateBucket account bucketId revision settings

structure Noted (σ : Type) where
  backend : σ
  calls : List CallNote

namespace Gateway

def noting {σ : Type} (inner : Gateway σ) : Gateway (Noted σ) where
  perform := fun account call state =>
    let reply := inner.perform account call state.backend
    ⟨reply.result, reply.events, ⟨reply.state, state.calls ++ [call.note account]⟩⟩

end Gateway

structure Trace where
  calls : List CallNote
  events : List Event
  metrics : List Metric

namespace Trace

def empty : Trace := ⟨[], [], []⟩

def append (first second : Trace) : Trace :=
  ⟨first.calls ++ second.calls, first.events ++ second.events, first.metrics ++ second.metrics⟩

instance : Append Trace := ⟨append⟩

@[simp] theorem append_eq (first second : Trace) :
    first ++ second = ⟨first.calls ++ second.calls, first.events ++ second.events,
      first.metrics ++ second.metrics⟩ := rfl

end Trace

namespace Procedure

variable {σ α β : Type} {before between : σ}

def traced (procedure : Procedure (Noted σ) α) (before : σ) : Outcome σ α × Trace :=
  let (result, progress) := procedure.start ⟨before, []⟩
  ((result, progress.backend.backend),
    ⟨progress.backend.calls, progress.events, progress.metrics⟩)

/-- From a backend a procedure comes to an outcome and adds a trace to what was noted
before, whatever that is. -/
def Leaves (procedure : Procedure (Noted σ) α) (before : σ) (outcome : Outcome σ α)
    (trace : Trace) : Prop :=
  ∀ progress : Progress (Noted σ), progress.backend.backend = before →
    procedure.continueFrom progress =
      (outcome.1,
        { backend := ⟨outcome.2, progress.backend.calls ++ trace.calls⟩
          events := progress.events ++ trace.events
          metrics := progress.metrics ++ trace.metrics })

namespace Leaves

variable {outcome : Outcome σ β} {trace later : Trace}

theorem traced_eq {procedure : Procedure (Noted σ) β}
    (leaves : procedure.Leaves before outcome trace) :
    procedure.traced before = (outcome, trace) := by
  have started : procedure.start ⟨before, []⟩ = _ := leaves ⟨⟨before, []⟩, [], []⟩ rfl
  simp only [traced, started, List.nil_append]

theorem of_eq {procedure : Procedure (Noted σ) β}
    (leaves : procedure.Leaves before outcome trace) (same : trace = later) :
    procedure.Leaves before outcome later :=
  same ▸ leaves

theorem pure (value : α) :
    Leaves (Pure.pure value : Procedure (Noted σ) α) before (.ok value, before) .empty := by
  intro progress same
  subst same
  rw [Trace.empty, List.append_nil, List.append_nil, List.append_nil]
  rfl

theorem throw (error : Error) :
    Leaves (MonadExcept.throw error : Procedure (Noted σ) α) before (.error error, before)
      .empty := by
  intro progress same
  subst same
  rw [Trace.empty, List.append_nil, List.append_nil, List.append_nil]
  rfl

theorem call (gateway : Gateway σ) (account : String) (request : Call α) (before : σ) :
    Leaves (Procedure.call gateway.noting account request) before
      ((gateway.perform account request before).result,
        (gateway.perform account request before).state)
      ⟨[request.note account], (gateway.perform account request before).events, []⟩ := by
  intro progress same
  subst same
  rw [List.append_nil]
  rfl

theorem bind_ok {first : Procedure (Noted σ) α} {next : α → Procedure (Noted σ) β} {value : α}
    (succeeds : first.Leaves before (.ok value, between) trace)
    (goesOn : (next value).Leaves between outcome later) :
    (first >>= next).Leaves before outcome (trace ++ later) := by
  intro progress same
  rw [continueFrom_bind, succeeds progress same]
  dsimp only
  rw [goesOn _ rfl]
  simp

theorem bind_error {first : Procedure (Noted σ) α} {next : α → Procedure (Noted σ) β}
    {error : Error} (fails : first.Leaves before (.error error, between) trace) :
    (first >>= next).Leaves before (.error error, between) trace := by
  intro progress same
  rw [continueFrom_bind, fails progress same]

theorem report (event : Event) {next : Unit → Procedure (Noted σ) β}
    (goesOn : (next ()).Leaves before outcome later) :
    (Procedure.report event >>= next).Leaves before outcome (⟨[], [event], []⟩ ++ later) := by
  refine bind_ok (fun progress same => ?_) goesOn
  subst same
  rw [List.append_nil, List.append_nil]
  rfl

theorem count (metric : Metric) {next : Unit → Procedure (Noted σ) β}
    (goesOn : (next ()).Leaves before outcome later) :
    (Procedure.count metric >>= next).Leaves before outcome (⟨[], [], [metric]⟩ ++ later) := by
  refine bind_ok (fun progress same => ?_) goesOn
  subst same
  rw [List.append_nil, List.append_nil]
  rfl

end Leaves

end Procedure

end BucketReplication
