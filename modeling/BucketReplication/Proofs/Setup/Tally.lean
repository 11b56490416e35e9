import BucketReplication.Proofs.Procedure.Recording
import BucketReplication.Proofs.Setup.Conversation

/-! # What setups count

Each side of a setup counts what it was answered: the keys that it created, the rules that a
source stored, and the mapped keys that a destination found deleted. An answer is counted
once and right after it was given, so what failed is not counted, and what was counted stays
so when a later call fails. -/

namespace BucketReplication

open Procedure (Tallies)

def Exchange.missing? : Exchange → Option String
  | ⟨.getKey _ keyId, .ok none⟩ => some keyId
  | _ => none

/-- What one side of a setup counts for an answer. -/
def KeyRole.worth : KeyRole → Exchange → List Metric
  | role, ⟨.createKey .., .ok _⟩ => [.keysCreated role]
  | .source, ⟨.updateBucket .., .ok _⟩ => [.rulesCreated]
  | .destination, ⟨.getKey .., .ok none⟩ => [.deletedKeysFound]
  | _, _ => []

namespace Setup

variable {σ : Type} {gateway : Gateway σ} {settings : SetupSettings}
  {source destination : Handle} {wished : NewRule}

/-! ## The source side -/

theorem createSourceKey_tallies (fileNameStart : String) :
    Tallies KeyRole.source.worth gateway
      (createSourceKey gateway settings source fileNameStart)
      (createSourceKey gateway.recording settings source fileNameStart) [] (fun _ => []) := by
  have created : Tallies KeyRole.source.worth gateway
      (createSourceKey gateway settings source "")
      (createSourceKey gateway.recording settings source "") [] (fun _ => []) :=
    .bind (.ask (.createKey source.account (sourceKeyRequest settings source.bucket)) fun _ => rfl)
      fun _ => .bind (.report _) fun _ => .bind (.count _) fun _ => .pure _
  unfold createSourceKey at created ⊢
  split
  · exact .bind (.report _) fun _ => created
  · exact created

theorem sourceKey_tallies (fileNameStart : String) :
    Tallies KeyRole.source.worth gateway (sourceKey gateway settings source fileNameStart)
      (sourceKey gateway.recording settings source fileNameStart) [] (fun _ => []) := by
  unfold sourceKey
  split
  · exact .bind (.report _) fun _ => createSourceKey_tallies fileNameStart
  · rename_i keyId named
    refine .bind (.ask (.getKey source.account keyId) fun _ => rfl) fun found => ?_
    cases found with
    | none => exact .bind (.report _) fun _ => createSourceKey_tallies fileNameStart
    | some key =>
        dsimp only
        split
        · exact .bind (.report _) fun _ => createSourceKey_tallies fileNameStart
        · exact .bind (.report _) fun _ => .pure key

theorem setupSource_tallies (gateway : Gateway σ) (settings : SetupSettings)
    (source destination : Handle) (wished : NewRule) :
    Tallies KeyRole.source.worth gateway
      (setupSource gateway settings source destination wished)
      (setupSource gateway.recording settings source destination wished) [] (fun _ => []) := by
  unfold setupSource Handle.update
  refine .bind (sourceKey_tallies _) fun key => ?_
  dsimp only
  split
  · exact .throw _
  · refine .bind (.report _) fun _ => .bind (.bind (.report _) fun _ =>
      .bind (.ask (.updateBucket source.account source.bucket.id _ _) fun _ => rfl) fun _ =>
        .pure _) fun _ => .bind (.count _) fun _ => .pure _

/-! ## The destination side -/

theorem inspectKey_tallies (account keyId : String) (survey : KeySurvey) :
    Tallies KeyRole.destination.worth gateway (inspectKey gateway account survey keyId)
      (inspectKey gateway.recording account survey keyId) [] (fun _ => []) := by
  unfold inspectKey
  refine .bind (.ask (.getKey account keyId) fun _ => rfl) fun found => ?_
  cases found with
  | none => exact .bind (.report _) fun _ => .bind (.count _) fun _ => .pure _
  | some key =>
      dsimp only
      split
      · exact .bind (.report _) fun _ => .pure _
      · exact .bind (.report _) fun _ => .pure survey

theorem surveyKeys_tallies (account : String) (keyIds : List String) (survey : KeySurvey) :
    Tallies KeyRole.destination.worth gateway (surveyKeys gateway account keyIds survey)
      (surveyKeys gateway.recording account keyIds survey) [] (fun _ => []) := by
  induction keyIds generalizing survey with
  | nil => exact .pure survey
  | cons keyId rest induction => exact .bind (inspectKey_tallies account keyId survey) induction

theorem createDestinationKey_tallies :
    Tallies KeyRole.destination.worth gateway
      (createDestinationKey gateway settings destination)
      (createDestinationKey gateway.recording settings destination) [] (fun _ => []) :=
  .bind (.ask (.createKey destination.account (destinationKeyRequest settings destination.bucket))
    fun _ => rfl) fun _ => .bind (.report _) fun _ => .bind (.count _) fun _ => .pure _

theorem destinationKey_tallies (mapping : KeyMapping) :
    Tallies KeyRole.destination.worth gateway
      (destinationKey gateway settings destination mapping)
      (destinationKey gateway.recording settings destination mapping) [] (fun _ => []) := by
  unfold destinationKey
  refine .bind (surveyKeys_tallies _ _ _) fun survey => ?_
  split
  · exact .pure _
  · exact .bind (.report _) fun _ => .bind createDestinationKey_tallies fun _ => .pure _

theorem setupDestination_tallies (gateway : Gateway σ) (settings : SetupSettings)
    (sourceKeyId : String) (destination : Handle) :
    Tallies KeyRole.destination.worth gateway
      (setupDestination gateway settings sourceKeyId destination)
      (setupDestination gateway.recording settings sourceKeyId destination) []
      (fun _ => []) := by
  -- The update of a destination is not counted.
  have updated (keyId : String) : Tallies KeyRole.destination.worth gateway
      (destination.update gateway destination.bucket.revision
        (settingsWithMapping destination.bucket sourceKeyId keyId))
      (destination.update gateway.recording destination.bucket.revision
        (settingsWithMapping destination.bucket sourceKeyId keyId)) [] (fun _ => []) :=
    .bind (.report _) fun _ =>
      .bind (.ask (.updateBucket destination.account destination.bucket.id _ _) fun _ => rfl)
        fun _ => .pure _
  unfold setupDestination
  refine .bind (destinationKey_tallies _) fun (deleted, key) => ?_
  dsimp only
  split
  · exact .bind (.report _) fun _ => .bind (.report _) fun _ => updated key.id
  · exact .bind (.report _) fun _ => updated key.id

/-! ## Both sides -/

/-- The conversation of a setup of both sides begins with that of its source side. What
follows is counted as on a destination side. -/
theorem setupBoth_tallies (gateway : Gateway σ) (settings : SetupSettings)
    (source destination : Handle) (wished : NewRule) (before : σ) :
    let first := (setupSource gateway.recording settings source destination wished).conversation
      before
    let progress := ((setupBoth gateway settings source destination wished).start before).2
    ∃ later,
      (setupBoth gateway.recording settings source destination wished).conversation before =
        first ++ later ∧
      gateway.Answers before (first ++ later) progress.backend ∧
      progress.metrics =
        first.flatMap KeyRole.source.worth ++ later.flatMap KeyRole.destination.worth := by
  apply Tallies.bind_of_start (setupSource_tallies gateway settings source destination wished)
  intro newSource
  split
  · exact .throw _
  · exact .bind (setupDestination_tallies gateway settings _ destination) fun _ => .pure _

end Setup

/-! ## The counts -/

namespace Metric

def role : Metric → KeyRole
  | .keysCreated role => role
  | .rulesCreated => .source
  | .deletedKeysFound => .destination

def counts : Metric → Exchange → Bool
  | .keysCreated _, exchange => exchange.created?.isSome
  | .rulesCreated, exchange => exchange.stored?.isSome
  | .deletedKeysFound, exchange => exchange.missing?.isSome

end Metric

namespace KeyRole

variable (role : KeyRole) (metric : Metric)

theorem count_worth (exchange : Exchange) :
    (role.worth exchange).count metric =
      if metric.role = role ∧ metric.counts exchange then 1 else 0 := by
  rcases exchange with ⟨call, error | answer⟩
  · cases call <;> rcases metric with ⟨_ | _⟩ | _ | _ <;> cases role <;> rfl
  · cases call with
    | getKey => cases answer <;> rcases metric with ⟨_ | _⟩ | _ | _ <;> cases role <;> rfl
    | _ => rcases metric with ⟨_ | _⟩ | _ | _ <;> cases role <;> rfl

theorem count_flatMap_worth (exchanges : List Exchange) :
    (exchanges.flatMap role.worth).count metric =
      if metric.role = role then exchanges.countP metric.counts else 0 := by
  induction exchanges with
  | nil => simp
  | cons exchange rest induction =>
      rw [List.flatMap_cons, List.count_append, induction, count_worth, List.countP_cons]
      by_cases own : metric.role = role
      · simp [own, Nat.add_comm]
      · simp [own]

end KeyRole

end BucketReplication
