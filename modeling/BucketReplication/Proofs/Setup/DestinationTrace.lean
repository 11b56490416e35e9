import BucketReplication.Proofs.Procedure.Trace
import BucketReplication.Proofs.Setup.Outcome

/-! # What a setup of a destination does on its way

The calls of a setup of a destination, and what it reports and counts: a survey of
the mapped keys, a new key if none of them is fit, and one update. -/

namespace BucketReplication

open Procedure (Leaves)

namespace Setup

def verdictTrace (keyId : String) : Option ApplicationKey → Trace
  | none => ⟨[], [.destinationKeyDeleted keyId], [.deletedKeysFound]⟩
  | some key =>
    if key.isFitForDestination then ⟨[], [.destinationKeyFit keyId], []⟩
    else ⟨[], [.destinationKeyUnfit keyId key.fileNameStart key.capabilities], []⟩

def inspectionTrace (accounts : Accounts) (account keyId : String) : Trace :=
  ⟨[.getKey account keyId], [], []⟩ ++ verdictTrace keyId (accounts.key? account keyId)

def surveyTrace (accounts : Accounts) (account : String) : List String → Trace
  | [] => .empty
  | keyId :: rest =>
    inspectionTrace accounts account keyId ++ surveyTrace accounts account rest

def creationTrace (settings : SetupSettings) (destination : Handle) (key : ApplicationKey) :
    Trace :=
  let request := destinationKeyRequest settings destination.bucket
  { calls := [.createKey destination.account request]
    events := [.destinationKeyMissing destination.bucket.name, .keyCreated key.id key.name,
      .destinationKeyCreated key.id request.name]
    metrics := [.keysCreated .destination] }

def deletionTrace (bucketName : String) (deleted : List String) : Trace :=
  if deleted.isEmpty then .empty else ⟨[], [.destinationKeysDeleted bucketName deleted], []⟩

end Setup

def Handle.updateTrace (handle : Handle) (revision : UInt64) (settings : ReplicationSettings)
    (result : Except Error Bucket) : Trace where
  calls := [.updateBucket handle.account handle.bucket.id revision settings]
  events :=
    .updatingReplication handle.bucket.name revision ::
      match result with
      | .ok bucket => [.replicationStored bucket.name bucket.revision]
      | .error _ => []
  metrics := []

variable {accounts between : Accounts} {settings : SetupSettings} {destination : Handle}
  {deleted : List String} {key : ApplicationKey}

/-! ## Calls -/

theorem getKey_leaves (account keyId : String) (accounts : Accounts) :
    (Procedure.call Accounts.gateway.noting account (.getKey keyId)).Leaves accounts
      (.ok (accounts.key? account keyId), accounts) ⟨[.getKey account keyId], [], []⟩ :=
  Leaves.call Accounts.gateway account (.getKey keyId) accounts

theorem createKey_leaves {account : String} {request : KeyRequest} {after : Accounts}
    (created : accounts.createKey account request = (.ok key, after)) :
    (Procedure.call Accounts.gateway.noting account (.createKey request)).Leaves accounts
      (.ok key, after) ⟨[.createKey account request], [.keyCreated key.id key.name], []⟩ := by
  have called := Leaves.call Accounts.gateway account (.createKey request) accounts
  simp only [Accounts.gateway, created] at called
  exact called

theorem Handle.update_leaves (handle : Handle) (revision : UInt64)
    (stores : ReplicationSettings) (accounts : Accounts) :
    (handle.update Accounts.gateway.noting revision stores).Leaves accounts
      ((handle.update Accounts.gateway revision stores).outcome accounts)
      (handle.updateTrace revision stores
        (accounts.updateBucket handle.account handle.bucket.id revision stores).1) := by
  have called := Leaves.call Accounts.gateway handle.account
    (.updateBucket handle.bucket.id revision stores) accounts
  simp only [Accounts.gateway] at called
  rw [(Handle.update_yields handle revision stores accounts).outcome_eq]
  unfold Handle.update
  rcases result : accounts.updateBucket handle.account handle.bucket.id revision stores with
    ⟨error | bucket, after⟩
  · rw [result] at called
    exact .of_eq (.report _ (.bind_error called)) rfl
  · rw [result] at called
    exact .of_eq (.report _ (.bind_ok called (.pure _))) rfl

namespace Setup

/-! ## The survey -/

theorem inspectKey_leaves (account : String) (survey : KeySurvey) (keyId : String)
    (accounts : Accounts) :
    (inspectKey Accounts.gateway.noting account survey keyId).Leaves accounts
      (.ok (survey.extended accounts account [keyId]), accounts)
      (inspectionTrace accounts account keyId) := by
  rw [KeySurvey.extended_singleton]
  unfold inspectKey
  refine .bind_ok (getKey_leaves account keyId accounts) ?_
  cases accounts.key? account keyId with
  | none => exact .of_eq (.report _ (.count _ (.pure _))) rfl
  | some key =>
      by_cases fit : key.isFitForDestination = true
      · simp only [verdictTrace, if_pos fit]
        exact .of_eq (.report _ (.pure _)) rfl
      · simp only [verdictTrace, if_neg fit]
        exact .of_eq (.report _ (.pure _)) rfl

theorem surveyKeys_leaves (account : String) (keyIds : List String) (survey : KeySurvey)
    (accounts : Accounts) :
    (surveyKeys Accounts.gateway.noting account keyIds survey).Leaves accounts
      (.ok (survey.extended accounts account keyIds), accounts)
      (surveyTrace accounts account keyIds) := by
  induction keyIds generalizing survey with
  | nil =>
      rw [KeySurvey.extended_nil]
      exact .pure survey
  | cons keyId rest induction =>
      rw [← KeySurvey.extended_cons]
      exact .bind_ok (inspectKey_leaves account survey keyId accounts) (induction _)

theorem calls_inspectionTrace (accounts : Accounts) (account keyId : String) :
    (inspectionTrace accounts account keyId).calls = [.getKey account keyId] := by
  unfold inspectionTrace
  cases accounts.key? account keyId with
  | none => rfl
  | some key =>
      unfold verdictTrace
      dsimp only
      split <;> rfl

theorem calls_surveyTrace (accounts : Accounts) (account : String) (keyIds : List String) :
    (surveyTrace accounts account keyIds).calls = keyIds.map (.getKey account) := by
  induction keyIds with
  | nil => rfl
  | cons keyId rest induction =>
      rw [surveyTrace, Trace.append_eq, calls_inspectionTrace, induction]
      rfl

/-! ## The key -/

def choiceTrace (accounts : Accounts) (settings : SetupSettings) (destination : Handle)
    (mapping : KeyMapping) (key : ApplicationKey) : Trace :=
  let keyIds := KeyMapping.destinationKeyIds mapping
  surveyTrace accounts destination.account keyIds ++
    if fitDestinationKeys accounts destination.account keyIds = [] then
      creationTrace settings destination key
    else .empty

theorem destinationKey_leaves {mapping : KeyMapping}
    (chosen : (destinationKey Accounts.gateway settings destination mapping).outcome accounts =
      (.ok (deleted, key), between)) :
    (destinationKey Accounts.gateway.noting settings destination mapping).Leaves accounts
      (.ok (deleted, key), between)
      (choiceTrace accounts settings destination mapping key) := by
  rw [(destinationKey_yields settings destination mapping accounts).outcome_eq] at chosen
  dsimp only at chosen
  unfold destinationKey
  refine .bind_ok (surveyKeys_leaves destination.account _ _ accounts) ?_
  simp only [KeySurvey.extended, List.nil_append, Option.or_none]
  cases fit : (fitDestinationKeys accounts destination.account
      (KeyMapping.destinationKeyIds mapping)).getLast? with
  | some fitKey =>
      rw [fit] at chosen
      cases chosen
      have found : fitDestinationKeys accounts destination.account
          (KeyMapping.destinationKeyIds mapping) ≠ [] :=
        List.ne_nil_of_mem (List.mem_of_getLast? fit)
      rw [if_neg found]
      exact .pure _
  | none =>
      rw [fit] at chosen
      rcases Outcome.bind_eq_ok chosen with ⟨created, reached, result, answered⟩
      cases answered
      rw [if_pos (List.getLast?_eq_none_iff.1 fit)]
      unfold createDestinationKey
      exact .of_eq (.report _ (.bind_ok (.bind_ok (createKey_leaves result)
        (.report _ (.count _ (.pure _)))) (.pure _))) rfl

/-! ## The setup -/

/-- A setup of a destination chooses a key, reports the deleted ones and makes one
update. -/
def setupTrace (accounts between : Accounts) (settings : SetupSettings) (sourceKeyId : String)
    (destination : Handle) (deleted : List String) (key : ApplicationKey) : Trace :=
  let bucket := destination.bucket
  let stores := settingsWithMapping bucket sourceKeyId key.id
  choiceTrace accounts settings destination bucket.keyMapping key ++
    (deletionTrace bucket.name deleted ++
      (⟨[], [.mappingKey bucket.name sourceKeyId key.id], []⟩ ++
        destination.updateTrace bucket.revision stores
          (between.updateBucket destination.account bucket.id bucket.revision stores).1))

theorem fitKeyIds_eq_nil_iff (accounts : Accounts) (account : String) (keyIds : List String) :
    fitKeyIds accounts account keyIds = [] ↔ fitDestinationKeys accounts account keyIds = [] := by
  rw [← map_id_fitDestinationKeys, List.map_eq_nil_iff]

theorem calls_setupTrace (accounts between : Accounts) (settings : SetupSettings)
    (sourceKeyId : String) (destination : Handle) (deleted : List String)
    (key : ApplicationKey) :
    let keyIds := KeyMapping.destinationKeyIds destination.bucket.keyMapping
    (setupTrace accounts between settings sourceKeyId destination deleted key).calls =
      keyIds.map (.getKey destination.account) ++
        (if fitKeyIds accounts destination.account keyIds = [] then
          [.createKey destination.account (destinationKeyRequest settings destination.bucket)]
        else []) ++
        [.updateBucket destination.account destination.bucket.id destination.bucket.revision
          (settingsWithMapping destination.bucket sourceKeyId key.id)] := by
  intro keyIds
  have deletions : (deletionTrace destination.bucket.name deleted).calls = [] := by
    unfold deletionTrace
    split <;> rfl
  simp only [setupTrace, choiceTrace, Trace.append_eq, calls_surveyTrace, deletions,
    fitKeyIds_eq_nil_iff, List.nil_append, apply_ite Trace.calls, creationTrace, Trace.empty,
    Handle.updateTrace, keyIds]

end Setup

def Event.deletion? : Event → Option (String × List String)
  | .destinationKeysDeleted bucketName keyIds => some (bucketName, keyIds)
  | _ => none

namespace Setup

theorem deletions_inspectionTrace (accounts : Accounts) (account keyId : String) :
    (inspectionTrace accounts account keyId).events.filterMap Event.deletion? = [] := by
  unfold inspectionTrace
  cases accounts.key? account keyId with
  | none => rfl
  | some key =>
      unfold verdictTrace
      dsimp only
      split <;> rfl

theorem deletions_surveyTrace (accounts : Accounts) (account : String) (keyIds : List String) :
    (surveyTrace accounts account keyIds).events.filterMap Event.deletion? = [] := by
  induction keyIds with
  | nil => rfl
  | cons keyId rest induction =>
      rw [surveyTrace, Trace.append_eq, List.filterMap_append, deletions_inspectionTrace, induction]
      rfl

theorem deletions_setupTrace (accounts between : Accounts) (settings : SetupSettings)
    (sourceKeyId : String) (destination : Handle) (deleted : List String)
    (key : ApplicationKey) :
    (setupTrace accounts between settings sourceKeyId destination deleted
      key).events.filterMap Event.deletion? =
        if deleted = [] then [] else [(destination.bucket.name, deleted)] := by
  have choice : (choiceTrace accounts settings destination destination.bucket.keyMapping
      key).events.filterMap Event.deletion? = [] := by
    simp only [choiceTrace, Trace.append_eq, List.filterMap_append, deletions_surveyTrace]
    split <;> rfl
  have update (result : Except Error Bucket) (stores : ReplicationSettings) :
      (destination.updateTrace destination.bucket.revision stores result).events.filterMap
        Event.deletion? = [] := by
    cases result <;> rfl
  simp only [setupTrace, Trace.append_eq, List.filterMap_append, choice, update, List.nil_append,
    List.append_nil]
  cases deleted <;> rfl

theorem setupDestination_leaves (sourceKeyId : String)
    (chosen : (destinationKey Accounts.gateway settings destination
      destination.bucket.keyMapping).outcome accounts = (.ok (deleted, key), between)) :
    (setupDestination Accounts.gateway.noting settings sourceKeyId destination).Leaves accounts
      ((setupDestination Accounts.gateway settings sourceKeyId destination).outcome accounts)
      (setupTrace accounts between settings sourceKeyId destination deleted key) := by
  have stored := Handle.update_leaves destination destination.bucket.revision
    (settingsWithMapping destination.bucket sourceKeyId key.id) between
  rw [setupDestination_of_chosen chosen]
  unfold setupDestination
  refine .bind_ok (destinationKey_leaves chosen) ?_
  unfold deletionTrace
  cases deleted with
  | nil =>
      simp only [List.isEmpty_nil, Bool.not_true, Bool.false_eq_true, if_false, if_true]
      exact .of_eq (.report _ stored) rfl
  | cons first rest =>
      simp only [List.isEmpty_cons, Bool.not_false, Bool.false_eq_true, if_false, if_true]
      exact .of_eq (.report _ (.report _ stored)) rfl

end Setup

end BucketReplication
