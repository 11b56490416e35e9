import BucketReplication.Proofs.Setup.Conversation

/-! # Errors of setups

Which errors a setup ends with, for a backend of any kind. A setup of both sides is the
conversation of the source side and then, unless that failed, the one of the destination
side for the key that the source names. In all of it the first answer that is an error ends
the setup and is its result. -/

namespace BucketReplication

open Procedure (Conducts)

namespace Setup

variable {σ : Type}

namespace Side.Course

variable {side : Side} {lookups creations updates : List Exchange} {result : Except Error Handle}

theorem ends_stored {handle : Handle} (course : side.Course lookups creations updates (.ok handle)) :
    ∃ last, (lookups ++ creations ++ updates).getLast? = some last ∧
      last.stored? = some handle.bucket := by
  rcases List.map_eq_singleton_iff.1 (course.succeeds handle rfl).2 with ⟨last, rfl, stored⟩
  exact ⟨last, List.getLast?_concat, stored⟩

end Side.Course

inductive BothConverse (settings : SetupSettings) (source destination : Handle)
    (wished : NewRule) : List Exchange → Except Error (Handle × Handle) → Prop where
  | failed {exchanges : List Exchange} {error : Error}
      (first : (sourceSide settings source destination wished).Converses exchanges
        (.error error)) :
      BothConverse settings source destination wished exchanges (.error error)
  | unnamed {exchanges : List Exchange} {newSource : Handle}
      (first : (sourceSide settings source destination wished).Converses exchanges
        (.ok newSource))
      (unnamed : newSource.bucket.sourceKeyId = none) :
      BothConverse settings source destination wished exchanges
        (.error (.internal ("bucket " ++ newSource.bucket.name ++
          " has no source key after replication setup")))
  | named {exchanges later : List Exchange} {newSource : Handle} {sourceKeyId : String}
      {result : Except Error Handle}
      (first : (sourceSide settings source destination wished).Converses exchanges
        (.ok newSource))
      (names : newSource.bucket.sourceKeyId = some sourceKeyId)
      (second : (destinationSide settings sourceKeyId destination).Converses later result) :
      BothConverse settings source destination wished (exchanges ++ later)
        (result.map fun newDestination => (newSource, newDestination))

/-- An error that a setup of both sides raises by itself: the new rule is invalid and
nothing was stored yet, or the last call stored the source but it names no key. -/
def RaisedByBoth (side : Side) (exchanges : List Exchange) (error : Error) : Prop :=
  (side.objection = some error ∧
      ∀ exchange ∈ exchanges, exchange.call.operation ≠ .updateBucket) ∨
    ∃ last bucket, exchanges.getLast? = some last ∧ last.stored? = some bucket ∧
      bucket.sourceKeyId = none ∧
      error = .internal ("bucket " ++ bucket.name ++
        " has no source key after replication setup")

theorem BothConverse.heeds {settings : SetupSettings} {source destination : Handle}
    {wished : NewRule} {exchanges : List Exchange} {result : Except Error (Handle × Handle)}
    (both : BothConverse settings source destination wished exchanges result) :
    Heeds (RaisedByBoth (sourceSide settings source destination wished) exchanges) exchanges
      result := by
  cases both with
  | failed first =>
      rcases first with ⟨lookups, creations, updates, rfl, course⟩
      apply course.heeds.converted (by simp)
      rintro error ⟨objects, rfl⟩
      refine .inl ⟨objects, fun exchange listed => ?_⟩
      rw [List.append_nil] at listed
      rcases List.mem_append.1 listed with looked | created
      · simp [course.lookups_operation exchange looked]
      · simp [course.creations_operation exchange created]
  | @unnamed _ newSource first unnamed =>
      rcases first with ⟨lookups, creations, updates, rfl, course⟩
      rcases course.ends_stored with ⟨last, isLast, stored⟩
      have silent : Heeds (RaisedByBoth (sourceSide settings source destination wished)
          (lookups ++ creations ++ updates)) []
          (.error (.internal ("bucket " ++ newSource.bucket.name ++
            " has no source key after replication setup")) :
            Except Error (Handle × Handle)) := by
        apply Heeds.silent
        rintro error ⟨⟩
        exact .inr ⟨last, newSource.bucket, isLast, stored, unnamed, rfl⟩
      simpa using Heeds.append course.heeds.allAnswered silent
  | @named _ _ _ _ answer first names second =>
      rcases first with ⟨lookups, creations, updates, rfl, course⟩
      rcases second with ⟨_, _, _, rfl, later⟩
      apply Heeds.append course.heeds.allAnswered
      apply later.heeds.converted
      · intro error
        cases answer <;> simp [Except.map]
      · rintro error ⟨⟨⟩, _⟩

theorem setupBoth_conducts (gateway : Gateway σ) (settings : SetupSettings)
    (source destination : Handle) (wished : NewRule) (before : σ) :
    ∃ outcome exchanges,
      Conducts gateway (setupBoth gateway settings source destination wished)
        (setupBoth gateway.noting settings source destination wished) before outcome exchanges ∧
      BothConverse settings source destination wished exchanges outcome.1 := by
  unfold setupBoth
  rcases setupSource_conducts gateway settings source destination wished before with
    ⟨⟨error | newSource, between⟩, exchanges, conducts, first⟩
  · exact ⟨_, _, .bind_error conducts, .failed first⟩
  · cases named : newSource.bucket.sourceKeyId with
    | none =>
        refine ⟨(.error (.internal _), between), _, .of_eq (.bind_ok conducts ?_)
          (List.append_nil _), .unnamed first named⟩
        simp only [named]
        exact .throw _
    | some sourceKeyId =>
        rcases setupDestination_conducts gateway settings sourceKeyId destination between with
          ⟨⟨result, after⟩, later, mapping, second⟩
        refine ⟨(result.map fun newDestination => (newSource, newDestination), after), _,
          .bind_ok conducts ?_, .named first named second⟩
        simp only [named]
        cases result with
        | error error => exact .bind_error mapping
        | ok newDestination => exact .of_eq (.bind_ok mapping (.pure _)) (List.append_nil _)

/-- For any backend, any handles and whatever is asked for: a source side looks up the key
that its handle names, if it names one, and a destination side each mapped key, in order.
A key is created only if all look-ups were answered and none of them with a fit key. The
last call is the update, which is for the bucket of the handle at the revision of the
handle. The first call that is answered with an error is the last one, and that error is
the result, also of a setup of both sides. Any other error is the one that the new rule
raises by itself before anything is stored or, in a setup of both sides, the internal one
of a source that was stored without a key. -/
theorem setups_pass_errors_on (gateway : Gateway σ) (settings : SetupSettings)
    (source destination : Handle) (wished : NewRule) (sourceKeyId : String) (before : σ) :
    (∃ outcome lookups creations updates,
      Conducts gateway (setupSource gateway settings source destination wished)
        (setupSource gateway.noting settings source destination wished) before outcome
        (lookups ++ creations ++ updates) ∧
      lookups.map Exchange.call =
        source.bucket.sourceKeyId.toList.map (.getKey source.account) ∧
      (sourceSide settings source destination wished).Course lookups creations updates
        outcome.1) ∧
    (∃ outcome lookups creations updates,
      Conducts gateway (setupDestination gateway settings sourceKeyId destination)
        (setupDestination gateway.noting settings sourceKeyId destination) before outcome
        (lookups ++ creations ++ updates) ∧
      (destinationSide settings sourceKeyId destination).Course lookups creations updates
        outcome.1) ∧
    ∃ outcome exchanges,
      Conducts gateway (setupBoth gateway settings source destination wished)
        (setupBoth gateway.noting settings source destination wished) before outcome exchanges ∧
      BothConverse settings source destination wished exchanges outcome.1 ∧
      Heeds (RaisedByBoth (sourceSide settings source destination wished) exchanges) exchanges
        outcome.1 := by
  refine ⟨?source, ?destination, ?both⟩
  case source =>
    rcases setupSource_conducts gateway settings source destination wished before with
      ⟨outcome, _, conducts, lookups, creations, updates, rfl, course⟩
    refine ⟨outcome, lookups, creations, updates, conducts, course.asks.single ?_, course⟩
    rw [Side.lookups, List.length_map]
    exact Option.length_toList_le
  case destination =>
    rcases setupDestination_conducts gateway settings sourceKeyId destination before with
      ⟨outcome, _, conducts, lookups, creations, updates, rfl, course⟩
    exact ⟨outcome, lookups, creations, updates, conducts, course⟩
  case both =>
    rcases setupBoth_conducts gateway settings source destination wished before with
      ⟨outcome, exchanges, conducts, both⟩
    exact ⟨outcome, exchanges, conducts, both, both.heeds⟩

end Setup

end BucketReplication
