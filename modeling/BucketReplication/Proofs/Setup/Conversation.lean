import BucketReplication.Proofs.Procedure.Conversation
import BucketReplication.Proofs.Setup.KeyChoice
import BucketReplication.Proofs.Setup.Settings

/-! # What a setup says to its backends

The conversation of a setup with a backend of any kind. Both sides follow one course: look
up the keys that the settings name, create a key if none of them is fit, and make one
update. An answer that is an error ends the setup, and no error comes about otherwise but
the few that a setup raises by itself. -/

namespace BucketReplication

open Procedure (Conducts)

/-! ## Sides -/

def Bucket.keyIds (bucket : Bucket) : KeyRole → List String
  | .source => bucket.sourceKeyId.toList
  | .destination => KeyMapping.destinationKeyIds bucket.keyMapping

def ApplicationKey.isFitFor (key : ApplicationKey) : KeyRole → Bool
  | .source => key.isFitForSource
  | .destination => key.isFitForDestination

namespace Setup

def keyRequest (settings : SetupSettings) (bucket : Bucket) : KeyRole → KeyRequest
  | .source => sourceKeyRequest settings bucket
  | .destination => destinationKeyRequest settings bucket

/-- One side of a setup: the handle that it goes by, and what it stores there once it has a
key, unless it objects to that itself. -/
structure Side where
  role : KeyRole
  settings : SetupSettings
  handle : Handle
  objection : Option Error
  stores : String → ReplicationSettings

def sourceSide (settings : SetupSettings) (source destination : Handle) (wished : NewRule) :
    Side :=
  let rule := ruleToAdd settings source.bucket destination.bucket wished
  { role := .source
    settings := settings
    handle := source
    objection := rule.problem?.map .invalidReplication
    stores := fun keyId => settingsWithRule source.bucket keyId rule }

def destinationSide (settings : SetupSettings) (sourceKeyId : String) (destination : Handle) :
    Side where
  role := .destination
  settings := settings
  handle := destination
  objection := none
  stores := settingsWithMapping destination.bucket sourceKeyId

namespace Side

def keyIds (side : Side) : List String :=
  side.handle.bucket.keyIds side.role

def lookups (side : Side) : List CallNote :=
  side.keyIds.map (.getKey side.handle.account)

def creation (side : Side) : CallNote :=
  .createKey side.handle.account (keyRequest side.settings side.handle.bucket side.role)

def update (side : Side) (keyId : String) : CallNote :=
  .updateBucket side.handle.account side.handle.bucket.id side.handle.bucket.revision
    (side.stores keyId)

def fitKeys (side : Side) (exchanges : List Exchange) : List ApplicationKey :=
  (exchanges.filterMap Exchange.key?).filter fun key => key.isFitFor side.role

/-- The choice of a key: the last fit one that was found, or else a new one. -/
structure Chooses (side : Side) (lookups creations : List Exchange)
    (choice : Except Error ApplicationKey) : Prop where
  asks : MakesCalls side.lookups lookups
  creates : creations.map Exchange.call =
    if AllAnswered lookups ∧ side.fitKeys lookups = [] then [side.creation] else []
  chosen : ∀ key, choice = .ok key →
    (side.fitKeys lookups ++ creations.filterMap Exchange.key?).getLast? = some key
  heeds : Heeds (fun _ => False) (lookups ++ creations) choice

/-- The course of one side: some keys are looked up, a new one is created if these were all
found wanting, and an update stores the choice, to which the side may object before. -/
structure Course (side : Side) (lookups creations updates : List Exchange)
    (result : Except Error Handle) : Prop where
  asks : MakesCalls side.lookups lookups
  creates : creations.map Exchange.call =
    if AllAnswered lookups ∧ side.fitKeys lookups = [] then [side.creation] else []
  stores : if AllAnswered (lookups ++ creations) ∧ side.objection = none then
      ∃ key, (side.fitKeys lookups ++ creations.filterMap Exchange.key?).getLast? = some key ∧
        updates.map Exchange.call = [side.update key.id]
    else updates = []
  succeeds : ∀ handle, result = .ok handle → handle.account = side.handle.account ∧
    updates.map Exchange.stored? = [some handle.bucket]
  heeds : Heeds (fun error => side.objection = some error ∧ updates = [])
    (lookups ++ creations ++ updates) result

def Converses (side : Side) (exchanges : List Exchange) (result : Except Error Handle) : Prop :=
  ∃ lookups creations updates, exchanges = lookups ++ creations ++ updates ∧
    side.Course lookups creations updates result

variable {side : Side} {lookups creations updates : List Exchange} {error : Error}
  {key : ApplicationKey}

/-! ## The choice of a key -/

namespace Chooses

theorem failed (asks : MakesCalls side.lookups lookups)
    (heeds : Heeds (fun _ => False) lookups (.error error : Except Error ApplicationKey)) :
    side.Chooses lookups [] (.error error) where
  asks := asks
  creates := by simp [heeds.not_allAnswered]
  chosen := nofun
  heeds := by rwa [List.append_nil]

theorem found (asks : MakesCalls side.lookups lookups) (answered : AllAnswered lookups)
    (last : (side.fitKeys lookups).getLast? = some key) :
    side.Chooses lookups [] (.ok key) where
  asks := asks
  creates := by
    have some : side.fitKeys lookups ≠ [] := List.ne_nil_of_mem (List.mem_of_getLast? last)
    simp [some]
  chosen other same := by
    cases same
    simpa using last
  heeds := .append answered (.silent nofun)

theorem created (asks : MakesCalls side.lookups lookups) (answered : AllAnswered lookups)
    (none : side.fitKeys lookups = []) (answer : Except Error ApplicationKey) :
    side.Chooses lookups [⟨side.creation, answer⟩] answer where
  asks := asks
  creates := by simp [answered, none]
  chosen key same := by
    cases same
    rw [none]
    rfl
  heeds := by
    apply Heeds.append answered
    apply Heeds.passed
    intro error
    cases answer <;> simp [Exchange.error?]

end Chooses

/-! ## The update -/

namespace Course

theorem failed (chooses : side.Chooses lookups creations (.error error)) :
    side.Course lookups creations [] (.error error) where
  asks := chooses.asks
  creates := chooses.creates
  stores := by
    rw [if_neg fun both => chooses.heeds.not_allAnswered both.1]
  succeeds := nofun
  heeds := by
    rw [List.append_nil]
    exact chooses.heeds.converted (fun _ => by simp) fun _ => False.elim

theorem objected (chooses : side.Chooses lookups creations (.ok key))
    (objects : side.objection = some error) :
    side.Course lookups creations [] (.error error) where
  asks := chooses.asks
  creates := chooses.creates
  stores := by simp [objects]
  succeeds := nofun
  heeds := by
    apply Heeds.append chooses.heeds.allAnswered
    apply Heeds.silent
    intro other same
    cases same
    exact ⟨objects, rfl⟩

theorem updated (chooses : side.Chooses lookups creations (.ok key))
    (objects : side.objection = none) (answer : Except Error Bucket) :
    side.Course lookups creations [⟨side.update key.id, answer⟩]
      (answer.map fun bucket => ⟨side.handle.account, bucket⟩) where
  asks := chooses.asks
  creates := chooses.creates
  stores := by
    rw [if_pos ⟨chooses.heeds.allAnswered, objects⟩]
    exact ⟨key, chooses.chosen key rfl, rfl⟩
  succeeds handle same := by
    cases answer with
    | error error => cases same
    | ok bucket =>
        cases same
        exact ⟨rfl, rfl⟩
  heeds := by
    apply Heeds.append chooses.heeds.allAnswered
    apply Heeds.passed
    intro error
    cases answer <;> simp [Exchange.error?, Except.map]

/-! The calls of each stage are of one kind. -/

section

variable {result : Except Error Handle} (course : side.Course lookups creations updates result)

include course

theorem lookups_operation (exchange : Exchange) (listed : exchange ∈ lookups) :
    exchange.call.operation = .getKey := by
  have asked := course.asks.inOrder.subset (List.mem_map_of_mem listed)
  rcases List.mem_map.1 asked with ⟨keyId, _, same⟩
  rw [← same]
  rfl

theorem creations_operation (exchange : Exchange) (listed : exchange ∈ creations) :
    exchange.call.operation = .createKey := by
  have asked : exchange.call ∈ creations.map Exchange.call := List.mem_map_of_mem listed
  rw [course.creates] at asked
  split at asked
  · rw [List.mem_singleton.1 asked]
    rfl
  · cases asked

theorem updates_operation (exchange : Exchange) (listed : exchange ∈ updates) :
    exchange.call.operation = .updateBucket := by
  have stores := course.stores
  split at stores
  · rcases stores with ⟨key, _, calls⟩
    have asked : exchange.call ∈ updates.map Exchange.call := List.mem_map_of_mem listed
    rw [calls] at asked
    rw [List.mem_singleton.1 asked]
    rfl
  · rw [stores] at listed
    cases listed

end

end Course

end Side

variable {σ : Type} {gateway : Gateway σ} {before after : σ} {settings : SetupSettings}

theorem Handle.update_conducts {handle : Handle} {revision : UInt64}
    {stores : ReplicationSettings} {answer : Except Error Bucket}
    (asked : gateway.ask (.updateBucket handle.account handle.bucket.id revision stores) before =
      (answer, after)) :
    Conducts gateway (handle.update gateway revision stores)
      (handle.update gateway.noting revision stores) before
      (answer.map fun bucket => ⟨handle.account, bucket⟩, after)
      [⟨.updateBucket handle.account handle.bucket.id revision stores, answer⟩] := by
  have conducts := Conducts.ask asked
  unfold Handle.update
  cases answer with
  | error error => exact .report _ (.bind_error conducts)
  | ok bucket => exact .of_eq (.report _ (.bind_ok conducts (.pure _))) rfl

/-! ## The source side -/

variable {source destination : Handle} {answer : Except Error ApplicationKey}

theorem createSourceKey_conducts (fileNameStart : String)
    (asked : gateway.ask (.createKey source.account (sourceKeyRequest settings source.bucket))
      before = (answer, after)) :
    Conducts gateway (createSourceKey gateway settings source fileNameStart)
      (createSourceKey gateway.noting settings source fileNameStart) before (answer, after)
      [⟨.createKey source.account (sourceKeyRequest settings source.bucket), answer⟩] := by
  -- A narrow rule is only reported, so the conversation is that of a rule for all files.
  have created : Conducts gateway (createSourceKey gateway settings source "")
      (createSourceKey gateway.noting settings source "") before (answer, after)
      [⟨.createKey source.account (sourceKeyRequest settings source.bucket), answer⟩] :=
    .followed (Conducts.ask asked) fun _ _ => .report _ (.count _ (.pure _))
  unfold createSourceKey at created ⊢
  split
  · exact .report _ created
  · exact created

theorem sourceKey_conducts (gateway : Gateway σ) (settings : SetupSettings)
    (source destination : Handle) (wished : NewRule) (fileNameStart : String) (before : σ) :
    ∃ outcome lookups creations,
      Conducts gateway (sourceKey gateway settings source fileNameStart)
        (sourceKey gateway.noting settings source fileNameStart) before outcome
        (lookups ++ creations) ∧
      (sourceSide settings source destination wished).Chooses lookups creations outcome.1 := by
  let side := sourceSide settings source destination wished
  have toAsk : side.lookups = source.bucket.sourceKeyId.toList.map (.getKey source.account) := rfl
  unfold sourceKey
  cases named : source.bucket.sourceKeyId with
  | none =>
      rw [named] at toAsk
      have asks : MakesCalls side.lookups [] := .whole toAsk.symm
      rcases created : gateway.ask side.creation before with ⟨answer, after⟩
      exact ⟨(answer, after), [], _, .report _ (createSourceKey_conducts fileNameStart created),
        .created asks allAnswered_nil rfl answer⟩
  | some keyId =>
      rw [named] at toAsk
      rcases asked : gateway.ask (.getKey source.account keyId) before with ⟨answer, between⟩
      have conducts := Conducts.ask asked
      have asks : MakesCalls side.lookups [⟨.getKey source.account keyId, answer⟩] :=
        .whole toAsk.symm
      rcases created : gateway.ask side.creation between with ⟨creation, after⟩
      have creates := createSourceKey_conducts fileNameStart created
      cases answer with
      | error error =>
          refine ⟨(.error error, between), _, [], .of_eq (.bind_error conducts)
            (List.append_nil _).symm, .failed asks ?_⟩
          apply Heeds.passed
          simp [Exchange.error?]
      | ok found =>
          have answered : AllAnswered [⟨.getKey source.account keyId, .ok found⟩] := by
            simp [Exchange.error?]
          have fits : side.fitKeys [⟨.getKey source.account keyId, .ok found⟩] =
              found.toList.filter ApplicationKey.isFitForSource := by
            cases found <;> rfl
          cases found with
          | none =>
              exact ⟨(creation, after), _, _, .bind_ok conducts (.report _ creates),
                .created asks answered fits creation⟩
          | some key =>
              cases objected : objection? keyId key with
              | none =>
                  have fit := (objection?_eq_none_iff keyId key).1 objected
                  refine ⟨(.ok key, between), _, [], .bind_ok conducts ?_,
                    .found asks answered ((congrArg List.getLast? fits).trans ?_)⟩
                  · simp only [objected]
                    exact .report _ (.pure key)
                  · simp [fit]
              | some objection =>
                  have unfit : ¬ key.isFitForSource = true := by
                    simp [← objection?_eq_none_iff keyId, objected]
                  refine ⟨(creation, after), _, _, .bind_ok conducts ?_,
                    .created asks answered (fits.trans ?_) creation⟩
                  · simp only [objected]
                    exact .report _ creates
                  · simp [unfit]

theorem setupSource_conducts (gateway : Gateway σ) (settings : SetupSettings)
    (source destination : Handle) (wished : NewRule) (before : σ) :
    ∃ outcome exchanges,
      Conducts gateway (setupSource gateway settings source destination wished)
        (setupSource gateway.noting settings source destination wished) before outcome exchanges ∧
      (sourceSide settings source destination wished).Converses exchanges outcome.1 := by
  let side := sourceSide settings source destination wished
  unfold setupSource
  rcases sourceKey_conducts gateway settings source destination wished
    (wished.fileNameStart.getD "") before with
    ⟨⟨error | key, between⟩, lookups, creations, conducts, chooses⟩
  · exact ⟨_, _, .bind_error conducts, lookups, creations, [], by simp, .failed chooses⟩
  · cases checked : (ruleToAdd settings source.bucket destination.bucket wished).problem? with
    | some problem =>
        have objects : side.objection = some (.invalidReplication problem) := by
          simp [side, sourceSide, checked]
        refine ⟨(.error (.invalidReplication problem), between), _, .bind_ok conducts ?_, lookups,
          creations, [], rfl, .objected chooses objects⟩
        simp only [checked]
        exact .throw _
    | none =>
        have objects : side.objection = none := by
          simp [side, sourceSide, checked]
        rcases asked : gateway.ask (side.update key.id) between with ⟨answer, after⟩
        have updates := Handle.update_conducts asked
        refine ⟨(_, after), _, .bind_ok conducts ?_, lookups, creations, _, rfl,
          .updated chooses objects answer⟩
        simp only [checked]
        exact .report _ (.followed updates fun _ _ => .count _ (.pure _))

/-! ## The destination side -/

def KeySurvey.informed (survey : KeySurvey) (keyId : String) :
    Option ApplicationKey → KeySurvey
  | none => { survey with deleted := survey.deleted ++ [keyId] }
  | some key => if key.isFitForDestination then { survey with fit := some key } else survey

theorem KeySurvey.fit_informed (survey : KeySurvey) (keyId : String)
    (found : Option ApplicationKey) :
    (survey.informed keyId found).fit =
      (found.toList.filter ApplicationKey.isFitForDestination).getLast?.or survey.fit := by
  cases found with
  | none => rfl
  | some key => cases fit : key.isFitForDestination <;> simp [informed, fit]

theorem inspectKey_conducts {account keyId : String} (survey : KeySurvey)
    {answer : Except Error (Option ApplicationKey)}
    (asked : gateway.ask (.getKey account keyId) before = (answer, after)) :
    Conducts gateway (inspectKey gateway account survey keyId)
      (inspectKey gateway.noting account survey keyId) before
      (answer.map (survey.informed keyId), after) [⟨.getKey account keyId, answer⟩] := by
  have conducts := Conducts.ask asked
  unfold inspectKey
  cases answer with
  | error error => exact .bind_error conducts
  | ok found =>
      refine .of_eq (.bind_ok conducts ?_) (List.append_nil _)
      cases found with
      | none => exact .report _ (.count _ (.pure _))
      | some key =>
          cases fit : key.isFitForDestination with
          | false =>
              simp only [fit, Except.map, KeySurvey.informed]
              exact .report _ (.pure _)
          | true =>
              simp only [fit, Except.map, KeySurvey.informed]
              exact .report _ (.pure _)

theorem surveyKeys_conducts (gateway : Gateway σ) (account : String) (keyIds : List String)
    (survey : KeySurvey) (before : σ) :
    ∃ outcome lookups,
      Conducts gateway (surveyKeys gateway account keyIds survey)
        (surveyKeys gateway.noting account keyIds survey) before outcome lookups ∧
      MakesCalls (keyIds.map (.getKey account)) lookups ∧
      Heeds (fun _ => False) lookups outcome.1 ∧
      ∀ final, outcome.1 = .ok final → final.fit =
        ((lookups.filterMap Exchange.key?).filter
          ApplicationKey.isFitForDestination).getLast?.or survey.fit := by
  induction keyIds generalizing survey before with
  | nil =>
      refine ⟨_, [], .pure survey, .whole rfl, .silent nofun, ?_⟩
      intro final same
      cases same
      rfl
  | cons keyId rest induction =>
      rcases asked : gateway.ask (.getKey account keyId) before with ⟨answer, between⟩
      have inspects := inspectKey_conducts survey asked
      cases answer with
      | error error =>
          have failed : Exchange.error? ⟨.getKey account keyId, .error error⟩ = some error := rfl
          refine ⟨_, _, .bind_error inspects, .refused rfl failed, .passed ?_, nofun⟩
          simp [failed]
      | ok found =>
          rcases induction (survey.informed keyId found) between with
            ⟨outcome, lookups, conducts, makes, heeds, finds⟩
          refine ⟨outcome, _, .bind_ok inspects conducts, .cons rfl makes, .cons rfl heeds, ?_⟩
          intro final same
          rw [finds final same, KeySurvey.fit_informed]
          cases found with
          | none => rfl
          | some key =>
              cases fit : key.isFitForDestination <;>
                simp [Exchange.key?, fit, List.getLast?_cons]

theorem createDestinationKey_conducts
    (asked : gateway.ask
      (.createKey destination.account (destinationKeyRequest settings destination.bucket)) before =
        (answer, after)) :
    Conducts gateway (createDestinationKey gateway settings destination)
      (createDestinationKey gateway.noting settings destination) before (answer, after)
      [⟨.createKey destination.account (destinationKeyRequest settings destination.bucket),
        answer⟩] := by
  unfold createDestinationKey
  exact .followed (Conducts.ask asked) fun _ _ => .report _ (.count _ (.pure _))

theorem destinationKey_conducts (gateway : Gateway σ) (settings : SetupSettings)
    (sourceKeyId : String) (destination : Handle) (before : σ) :
    ∃ outcome lookups creations,
      Conducts gateway
        (destinationKey gateway settings destination destination.bucket.keyMapping)
        (destinationKey gateway.noting settings destination destination.bucket.keyMapping) before
        outcome (lookups ++ creations) ∧
      (destinationSide settings sourceKeyId destination).Chooses lookups creations
        (outcome.1.map Prod.snd) := by
  let side := destinationSide settings sourceKeyId destination
  unfold destinationKey
  rcases surveyKeys_conducts gateway destination.account
    (KeyMapping.destinationKeyIds destination.bucket.keyMapping) ⟨[], none⟩ before with
    ⟨⟨error | survey, between⟩, lookups, conducts, asks, heeds, finds⟩
  · exact ⟨_, lookups, [], .of_eq (.bind_error conducts) (List.append_nil _).symm,
      .failed asks (heeds.converted (by simp) fun _ => id)⟩
  · have answered := heeds.allAnswered
    have asks : MakesCalls side.lookups lookups := asks
    have fits : survey.fit = (side.fitKeys lookups).getLast? :=
      (finds survey rfl).trans Option.or_none
    cases found : survey.fit with
    | some key =>
        refine ⟨(.ok (survey.deleted, key), between), lookups, [], .bind_ok conducts ?_,
          .found asks answered (fits.symm.trans found)⟩
        simp only [found]
        exact .pure _
    | none =>
        have unfit := List.getLast?_eq_none_iff.1 (fits.symm.trans found)
        rcases asked : gateway.ask side.creation between with ⟨creation, after⟩
        have creates := createDestinationKey_conducts asked
        refine ⟨(creation.map fun key => (survey.deleted, key), after), lookups,
          [⟨side.creation, creation⟩], .bind_ok conducts ?_, ?_⟩
        · simp only [found]
          cases creation with
          | error error => exact .report _ (.bind_error creates)
          | ok key => exact .of_eq (.report _ (.bind_ok creates (.pure _))) rfl
        · have chooses := Side.Chooses.created asks answered unfit creation
          cases creation with
          | error error => exact chooses
          | ok key => exact chooses

theorem setupDestination_conducts (gateway : Gateway σ) (settings : SetupSettings)
    (sourceKeyId : String) (destination : Handle) (before : σ) :
    ∃ outcome exchanges,
      Conducts gateway (setupDestination gateway settings sourceKeyId destination)
        (setupDestination gateway.noting settings sourceKeyId destination) before outcome
        exchanges ∧
      (destinationSide settings sourceKeyId destination).Converses exchanges outcome.1 := by
  let side := destinationSide settings sourceKeyId destination
  unfold setupDestination
  rcases destinationKey_conducts gateway settings sourceKeyId destination before with
    ⟨⟨error | ⟨deleted, key⟩, between⟩, lookups, creations, conducts, chooses⟩
  · exact ⟨_, _, .bind_error conducts, lookups, creations, [], by simp, .failed chooses⟩
  · rcases asked : gateway.ask (side.update key.id) between with ⟨answer, after⟩
    have updates := Handle.update_conducts asked
    refine ⟨(_, after), _, .bind_ok conducts ?_, lookups, creations, _, rfl,
      .updated chooses rfl answer⟩
    dsimp only
    split
    · exact .report _ (.report _ updates)
    · exact .report _ updates

end Setup

end BucketReplication
