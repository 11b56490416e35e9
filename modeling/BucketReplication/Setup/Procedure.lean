import BucketReplication.Backend.Gateway
import BucketReplication.Journal.Metric

/-! # Procedures

A procedure calls a backend, reports events and counts. What it has done so far
stays done when it fails: neither the backend nor the journal is turned back. -/

namespace BucketReplication

/-- The state of the backend and what was reported and counted on the way, in
order. -/
structure Progress (σ : Type) where
  backend : σ
  events : List Event
  metrics : List Metric

abbrev Procedure (σ α : Type) := ExceptT Error (StateM (Progress σ)) α

namespace Procedure

variable {σ α : Type}

def start (procedure : Procedure σ α) (backend : σ) : Except Error α × Progress σ :=
  procedure.run.run ⟨backend, [], []⟩

/-- Call the backend. Its error ends the procedure. -/
def call (gateway : Gateway σ) (account : String) (request : Call α) : Procedure σ α :=
  ExceptT.mk fun progress =>
    let reply := gateway.perform account request progress.backend
    (reply.result,
      { progress with backend := reply.state, events := progress.events ++ reply.events })

def report (event : Event) : Procedure σ Unit :=
  modify fun progress => { progress with events := progress.events ++ [event] }

def count (metric : Metric) : Procedure σ Unit :=
  modify fun progress => { progress with metrics := progress.metrics ++ [metric] }

end Procedure

end BucketReplication
