import BucketReplication.Proofs.Procedure.Conversation

/-! # Recorded conversations

A gateway can keep all that passes through it, each call with its answer. Some answers are
to be counted. A procedure that counts them owes the count from the answer on until it has
counted, and in the end it owes nothing. -/

namespace BucketReplication

structure Recorded (σ : Type) where
  backend : σ
  exchanges : List Exchange

def Call.exchange {α : Type} (account : String) : Call α → Except Error α → Exchange
  | .getKey keyId, answer => ⟨.getKey account keyId, answer⟩
  | .createKey request, answer => ⟨.createKey account request, answer⟩
  | .getBucketByName name, answer => ⟨.getBucketByName account name, answer⟩
  | .updateBucket bucketId revision settings, answer =>
    ⟨.updateBucket account bucketId revision settings, answer⟩

theorem CallNote.exchange_call (note : CallNote) (answer : Except Error note.Answer) :
    note.call.exchange note.account answer = ⟨note, answer⟩ := by
  cases note <;> rfl

def Gateway.recording {σ : Type} (inner : Gateway σ) : Gateway (Recorded σ) where
  perform := fun account call state =>
    let reply := inner.perform account call state.backend
    ⟨reply.result, reply.events,
      ⟨reply.state, state.exchanges ++ [call.exchange account reply.result]⟩⟩

variable {σ α β : Type}

def Progress.recorded (progress : Progress σ) (exchanges : List Exchange) :
    Progress (Recorded σ) :=
  ⟨⟨progress.backend, exchanges⟩, progress.events, progress.metrics⟩

namespace Procedure

def conversation (procedure : Procedure (Recorded σ) α) (before : σ) : List Exchange :=
  (procedure.start ⟨before, []⟩).2.backend.exchanges

/-- A procedure and the same one with its conversation recorded get equally far, and what
was recorded is what the gateway answered. -/
structure Records (gateway : Gateway σ) (procedure : Procedure σ α)
    (recording : Procedure (Recorded σ) α) (before : Progress σ)
    (reached : Except Error α × Progress σ) (exchanges : List Exchange) : Prop where
  runs : procedure.continueFrom before = reached
  recorded : ∀ earlier, recording.continueFrom (before.recorded earlier) =
    (reached.1, reached.2.recorded (earlier ++ exchanges))
  answers : gateway.Answers before.backend exchanges reached.2.backend

namespace Records

variable {gateway : Gateway σ} {procedure : Procedure σ β} {recording : Procedure (Recorded σ) β}
  {before middle : Progress σ} {reached : Except Error β × Progress σ}
  {exchanges later : List Exchange}

theorem silent (runs : procedure.continueFrom before = reached)
    (same : reached.2.backend = before.backend)
    (recorded : ∀ earlier, recording.continueFrom (before.recorded earlier) =
      (reached.1, reached.2.recorded earlier)) :
    Records gateway procedure recording before reached [] where
  runs := runs
  recorded earlier := by rw [List.append_nil, recorded]
  answers := by
    rw [same]
    exact .done _

theorem ask (gateway : Gateway σ) (note : CallNote) (before : Progress σ) :
    let reply := gateway.perform note.account note.call before.backend
    Records gateway (call gateway note.account note.call)
      (call gateway.recording note.account note.call) before
      (reply.result, ⟨reply.state, before.events ++ reply.events, before.metrics⟩)
      [⟨note, reply.result⟩] where
  runs := rfl
  recorded earlier := by
    rw [← note.exchange_call]
    rfl
  answers := .next rfl (.done _)

section

variable {first : Procedure σ α} {next : α → Procedure σ β}
  {firstRecording : Procedure (Recorded σ) α} {nextRecording : α → Procedure (Recorded σ) β}

theorem bind_ok {value : α}
    (starts : Records gateway first firstRecording before (.ok value, middle) exchanges)
    (goesOn : Records gateway (next value) (nextRecording value) middle reached later) :
    Records gateway (first >>= next) (firstRecording >>= nextRecording) before reached
      (exchanges ++ later) where
  runs := by
    rw [continueFrom_bind, starts.runs]
    exact goesOn.runs
  recorded earlier := by
    rw [continueFrom_bind, starts.recorded, ← List.append_assoc]
    exact goesOn.recorded _
  answers := starts.answers.append goesOn.answers

theorem bind_error {error : Error}
    (fails : Records gateway first firstRecording before (.error error, middle) exchanges) :
    Records gateway (first >>= next) (firstRecording >>= nextRecording) before
      (.error error, middle) exchanges where
  runs := by rw [continueFrom_bind, fails.runs]
  recorded earlier := by rw [continueFrom_bind, fails.recorded]
  answers := fails.answers

end

theorem conversation_eq {before : σ}
    (records : Records gateway procedure recording ⟨before, [], []⟩ reached exchanges) :
    recording.conversation before = exchanges :=
  congrArg (fun outcome => outcome.2.backend.exchanges) (records.recorded [])

end Records

/-- What a procedure still has to count once it has come to a result. A failure leaves
nothing to count. -/
def owedAfter (owes : α → List Metric) : Except Error α → List Metric
  | .ok value => owes value
  | .error _ => []

@[simp] theorem owedAfter_nothing (result : Except Error α) :
    owedAfter (fun _ => []) result = [] := by
  cases result <;> rfl

/-- What is counted on the way is what was owed before and what the answers are worth, but
for what is still owed. -/
def Tallies (worth : Exchange → List Metric) (gateway : Gateway σ) (procedure : Procedure σ α)
    (recording : Procedure (Recorded σ) α) (owed : List Metric) (owes : α → List Metric) :
    Prop :=
  ∀ before, ∃ reached exchanges, Records gateway procedure recording before reached exchanges ∧
    reached.2.metrics ++ owedAfter owes reached.1 =
      before.metrics ++ owed ++ exchanges.flatMap worth

namespace Tallies

variable {worth other : Exchange → List Metric} {gateway : Gateway σ} {owed : List Metric}
  {owes : β → List Metric}

theorem pure (value : β) :
    Tallies worth gateway (Pure.pure value) (Pure.pure value) (owes value) owes := by
  intro before
  refine ⟨(.ok value, before), [], .silent rfl rfl fun _ => rfl, ?_⟩
  rw [List.flatMap_nil, List.append_nil]
  rfl

theorem throw (error : Error) :
    Tallies worth gateway (MonadExcept.throw error) (MonadExcept.throw error) [] owes := by
  intro before
  refine ⟨(.error error, before), [], .silent rfl rfl fun _ => rfl, ?_⟩
  simp [owedAfter]

theorem report (event : Event) :
    Tallies worth gateway (Procedure.report event) (Procedure.report event) owed
      (fun _ => owed) := by
  intro before
  refine ⟨(.ok (), { before with events := before.events ++ [event] }), [],
    .silent rfl rfl fun _ => rfl, ?_⟩
  simp [owedAfter]

theorem count (metric : Metric) :
    Tallies worth gateway (Procedure.count metric) (Procedure.count metric) (metric :: owed)
      (fun _ => owed) := by
  intro before
  refine ⟨(.ok (), { before with metrics := before.metrics ++ [metric] }), [],
    .silent rfl rfl fun _ => rfl, ?_⟩
  simp [owedAfter]

theorem ask (note : CallNote) (free : ∀ error, worth ⟨note, .error error⟩ = []) :
    Tallies worth gateway (call gateway note.account note.call)
      (call gateway.recording note.account note.call) []
      (fun value => worth ⟨note, .ok value⟩) := by
  intro before
  refine ⟨_, _, .ask gateway note before, ?_⟩
  rw [List.append_nil, List.flatMap_singleton]
  cases (gateway.perform note.account note.call before.backend).result with
  | error error =>
      rw [free]
      rfl
  | ok value => rfl

variable {first : Procedure σ α} {next : α → Procedure σ β}
  {firstRecording : Procedure (Recorded σ) α} {nextRecording : α → Procedure (Recorded σ) β}

theorem bind {between : α → List Metric}
    (starts : Tallies worth gateway first firstRecording owed between)
    (goesOn : ∀ value,
      Tallies worth gateway (next value) (nextRecording value) (between value) owes) :
    Tallies worth gateway (first >>= next) (firstRecording >>= nextRecording) owed owes := by
  intro before
  rcases starts before with ⟨⟨error | value, middle⟩, exchanges, records, settled⟩
  · exact ⟨_, exchanges, .bind_error records, settled⟩
  · rcases goesOn value middle with ⟨reached, later, recordsOn, settledOn⟩
    refine ⟨reached, exchanges ++ later, .bind_ok records recordsOn, ?_⟩
    have between : middle.metrics ++ between value =
        before.metrics ++ owed ++ exchanges.flatMap worth := settled
    rw [settledOn, between, List.flatMap_append, List.append_assoc _ (exchanges.flatMap worth)]

/-! ## From an empty journal -/

theorem of_start {procedure : Procedure σ β} {recording : Procedure (Recorded σ) β}
    (tallies : Tallies worth gateway procedure recording [] (fun _ => [])) (before : σ) :
    gateway.Answers before (recording.conversation before) (procedure.start before).2.backend ∧
      (procedure.start before).2.metrics = (recording.conversation before).flatMap worth := by
  rcases tallies ⟨before, [], []⟩ with ⟨reached, exchanges, records, settled⟩
  have started : procedure.start before = reached := records.runs
  rw [started, records.conversation_eq]
  exact ⟨records.answers, by simpa using settled⟩

theorem bind_of_start
    (starts : Tallies worth gateway first firstRecording [] (fun _ => []))
    (goesOn : ∀ value,
      Tallies other gateway (next value) (nextRecording value) [] (fun _ => [])) (before : σ) :
    ∃ later,
      (firstRecording >>= nextRecording).conversation before =
        firstRecording.conversation before ++ later ∧
      gateway.Answers before (firstRecording.conversation before ++ later)
        ((first >>= next).start before).2.backend ∧
      ((first >>= next).start before).2.metrics =
        (firstRecording.conversation before).flatMap worth ++ later.flatMap other := by
  rcases starts ⟨before, [], []⟩ with ⟨⟨result, middle⟩, exchanges, records, settled⟩
  have counted : middle.metrics = exchanges.flatMap worth := by
    simpa using settled
  rw [records.conversation_eq]
  cases result with
  | error error =>
      -- The second part was never begun, so nothing else was said.
      have both : Records gateway (first >>= next) (firstRecording >>= nextRecording) _ _ _ :=
        .bind_error records
      have started : (first >>= next).start before = _ := both.runs
      rw [both.conversation_eq, started]
      refine ⟨[], (List.append_nil _).symm, ?_, ?_⟩
      · rw [List.append_nil]
        exact records.answers
      · rw [List.flatMap_nil, List.append_nil, counted]
  | ok value =>
      rcases goesOn value middle with ⟨reached, later, recordsOn, settledOn⟩
      have both := records.bind_ok recordsOn
      have started : (first >>= next).start before = reached := both.runs
      rw [both.conversation_eq, started]
      refine ⟨later, rfl, both.answers, ?_⟩
      rw [← counted]
      simpa using settledOn

end Tallies

end Procedure

end BucketReplication
