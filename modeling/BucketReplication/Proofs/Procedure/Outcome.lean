import BucketReplication.Setup.Procedure

/-! # Outcomes of procedures

What a procedure comes to, its journal left aside: a result, and the backend
that it leaves behind. Each building block of procedures has a rule for its
outcome, so the outcome of a procedure follows its text. -/

namespace BucketReplication

abbrev Outcome (σ α : Type) := Except Error α × σ

namespace Outcome

variable {σ α β : Type} {first : Outcome σ α} {next : α → σ → Outcome σ β} {after : σ}

def bind (first : Outcome σ α) (next : α → σ → Outcome σ β) : Outcome σ β :=
  match first with
  | (.ok value, between) => next value between
  | (.error error, between) => (.error error, between)

theorem bind_eq_ok {value : β} (succeeds : first.bind next = (.ok value, after)) :
    ∃ passed between, first = (.ok passed, between) ∧
      next passed between = (.ok value, after) := by
  obtain ⟨error | passed, between⟩ := first
  · cases succeeds
  · exact ⟨passed, between, rfl, succeeds⟩

theorem bind_eq_error {error : Error} (fails : first.bind next = (.error error, after)) :
    first = (.error error, after) ∨
      ∃ passed between, first = (.ok passed, between) ∧
        next passed between = (.error error, after) := by
  obtain ⟨failure | passed, between⟩ := first
  · cases fails
    exact .inl rfl
  · exact .inr ⟨passed, between, rfl, fails⟩

end Outcome

namespace Procedure

variable {σ α β : Type} {before : σ}

def outcome (procedure : Procedure σ α) (before : σ) : Outcome σ α :=
  ((procedure.start before).1, (procedure.start before).2.backend)

def continueFrom (procedure : Procedure σ α) (progress : Progress σ) :
    Except Error α × Progress σ :=
  procedure.run.run progress

/-- From a backend a procedure comes to an outcome, whatever was reported and
counted before. -/
def Yields (procedure : Procedure σ α) (before : σ) (outcome : Outcome σ α) : Prop :=
  ∀ progress : Progress σ, progress.backend = before →
    ((procedure.continueFrom progress).1,
      (procedure.continueFrom progress).2.backend) = outcome

theorem continueFrom_bind (first : Procedure σ α) (next : α → Procedure σ β)
    (progress : Progress σ) :
    (first >>= next).continueFrom progress =
      match first.continueFrom progress with
      | (.ok value, reached) => (next value).continueFrom reached
      | (.error error, reached) => (.error error, reached) := by
  rw [continueFrom, ExceptT.run_bind, StateT.run_bind]
  rcases result : first.continueFrom progress with ⟨error | value, reached⟩
  · rw [continueFrom] at result
    rw [result]
    rfl
  · rw [continueFrom] at result
    rw [result]
    rfl

namespace Yields

theorem outcome_eq {procedure : Procedure σ α} {outcome : Outcome σ α}
    (yields : procedure.Yields before outcome) : procedure.outcome before = outcome :=
  yields ⟨before, [], []⟩ rfl

theorem yields_outcome {procedure : Procedure σ α} {outcome : Outcome σ α}
    (yields : procedure.Yields before outcome) :
    procedure.Yields before (procedure.outcome before) := by
  rw [yields.outcome_eq]
  exact yields

theorem pure (value : α) :
    Yields (Pure.pure value : Procedure σ α) before (.ok value, before) := by
  intro progress same
  subst same
  rfl

theorem throw (error : Error) :
    Yields (MonadExcept.throw error : Procedure σ α) before (.error error, before) := by
  intro progress same
  subst same
  rfl

theorem call (gateway : Gateway σ) (account : String) (request : Call α) :
    Yields (Procedure.call gateway account request) before
      ((gateway.perform account request before).result,
        (gateway.perform account request before).state) := by
  intro progress same
  subst same
  rfl

theorem bind {first : Procedure σ α} {next : α → Procedure σ β} {outcome : Outcome σ α}
    {rest : α → σ → Outcome σ β} (yields : first.Yields before outcome)
    (goesOn : ∀ value between, (next value).Yields between (rest value between)) :
    (first >>= next).Yields before (outcome.bind rest) := by
  intro progress same
  have reached := yields progress same
  rw [continueFrom_bind]
  subst reached
  rcases first.continueFrom progress with ⟨error | value, later⟩
  · rfl
  · exact goesOn value later.backend later rfl

theorem bind_ok {first : Procedure σ α} {next : α → Procedure σ β} {value : α} {between : σ}
    {outcome : Outcome σ β} (succeeds : first.Yields before (.ok value, between))
    (goesOn : (next value).Yields between outcome) : (first >>= next).Yields before outcome := by
  intro progress same
  have reached := succeeds progress same
  rw [continueFrom_bind]
  cases result : first.continueFrom progress with
  | mk answer later =>
      rw [result] at reached
      cases reached
      exact goesOn later rfl

theorem bind_error {first : Procedure σ α} {next : α → Procedure σ β} {error : Error}
    {between : σ} (fails : first.Yields before (.error error, between)) :
    (first >>= next).Yields before (.error error, between) := by
  intro progress same
  have reached := fails progress same
  rw [continueFrom_bind]
  cases result : first.continueFrom progress with
  | mk answer later =>
      rw [result] at reached
      cases reached
      rfl

theorem followed {first : Procedure σ α} {next : α → Procedure σ α} {outcome : Outcome σ α}
    (yields : first.Yields before outcome)
    (keeps : ∀ value between, (next value).Yields between (.ok value, between)) :
    (first >>= next).Yields before outcome := by
  have unchanged : outcome.bind (fun value between => (.ok value, between)) = outcome := by
    obtain ⟨error | value, after⟩ := outcome <;> rfl
  rw [← unchanged]
  exact bind yields keeps

theorem after_report {event : Event} {next : Unit → Procedure σ β} {outcome : Outcome σ β}
    (goesOn : (next ()).Yields before outcome) :
    (Procedure.report event >>= next).Yields before outcome := by
  intro progress same
  rw [continueFrom_bind]
  exact goesOn _ same

theorem after_count {metric : Metric} {next : Unit → Procedure σ β} {outcome : Outcome σ β}
    (goesOn : (next ()).Yields before outcome) :
    (Procedure.count metric >>= next).Yields before outcome := by
  intro progress same
  rw [continueFrom_bind]
  exact goesOn _ same

end Yields

end Procedure

end BucketReplication
