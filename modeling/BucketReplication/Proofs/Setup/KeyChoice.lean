import BucketReplication.Proofs.Accounts.Operation
import BucketReplication.Proofs.Procedure.Outcome
import BucketReplication.Setup.Keys

/-! # The choice of a key

Which key a setup goes on with: one that the settings name and that is fit, or
else a new one. Nothing changes unless a key is created. -/

namespace BucketReplication.Setup

open Procedure (Yields)

/-! ## Calls on accounts -/

theorem getKey_yields (account keyId : String) (accounts : Accounts) :
    (Procedure.call Accounts.gateway account (.getKey keyId)).Yields accounts
      (.ok (accounts.key? account keyId), accounts) :=
  Yields.call Accounts.gateway account (.getKey keyId)

theorem createKey_yields (account : String) (request : KeyRequest) (accounts : Accounts) :
    (Procedure.call Accounts.gateway account (.createKey request)).Yields accounts
      (accounts.createKey account request) :=
  Yields.call Accounts.gateway account (.createKey request)

theorem updateBucket_yields (account bucketId : String) (revision : UInt64)
    (settings : ReplicationSettings) (accounts : Accounts) :
    (Procedure.call Accounts.gateway account (.updateBucket bucketId revision settings)).Yields
      accounts (accounts.updateBucket account bucketId revision settings) :=
  Yields.call Accounts.gateway account (.updateBucket bucketId revision settings)

/-! ## Sources -/

def fitSourceKey? (accounts : Accounts) (source : Handle) : Option ApplicationKey :=
  (source.bucket.sourceKeyId.bind (accounts.key? source.account)).filter
    ApplicationKey.isFitForSource

theorem createSourceKey_yields (settings : SetupSettings) (source : Handle)
    (fileNameStart : String) (accounts : Accounts) :
    (createSourceKey Accounts.gateway settings source fileNameStart).Yields accounts
      (accounts.createKey source.account (sourceKeyRequest settings source.bucket)) := by
  unfold createSourceKey
  extract_lets request creation
  have goesOn : (creation ()).Yields accounts
      (accounts.createKey source.account (sourceKeyRequest settings source.bucket)) :=
    .followed (createKey_yields source.account request accounts) fun key _ =>
      .after_report (.after_count (.pure key))
  split
  · exact .after_report goesOn
  · exact goesOn

theorem objection?_eq_none_iff (keyId : String) (key : ApplicationKey) :
    objection? keyId key = none ↔ key.isFitForSource = true := by
  unfold objection? ApplicationKey.isFitForSource
  cases key.isNarrowed <;> cases key.hasCapabilities sourceCapabilities <;> simp

theorem sourceKey_yields (settings : SetupSettings) (source : Handle) (fileNameStart : String)
    (accounts : Accounts) :
    (sourceKey Accounts.gateway settings source fileNameStart).Yields accounts
      (match fitSourceKey? accounts source with
      | some key => (.ok key, accounts)
      | none =>
        accounts.createKey source.account (sourceKeyRequest settings source.bucket)) := by
  have creation := createSourceKey_yields settings source fileNameStart accounts
  unfold sourceKey fitSourceKey?
  cases named : source.bucket.sourceKeyId with
  | none => exact .after_report creation
  | some keyId =>
      refine .bind_ok (getKey_yields source.account keyId accounts) ?_
      rw [Option.bind_some]
      cases found : accounts.key? source.account keyId with
      | none => exact .after_report creation
      | some key =>
          cases objected : objection? keyId key with
          | none =>
              rw [Option.filter_some, if_pos ((objection?_eq_none_iff keyId key).1 objected)]
              simp only [objected]
              exact .after_report (.pure key)
          | some objection =>
              have unfit : ¬ key.isFitForSource = true := fun fit => by
                simp [(objection?_eq_none_iff keyId key).2 fit] at objected
              rw [Option.filter_some, if_neg unfit]
              simp only [objected]
              exact .after_report creation

/-! ## Destinations -/

def fitDestinationKeys (accounts : Accounts) (account : String) (keyIds : List String) :
    List ApplicationKey :=
  (keyIds.filterMap (accounts.key? account)).filter ApplicationKey.isFitForDestination

def absentKeyIds (accounts : Accounts) (account : String) (keyIds : List String) :
    List String :=
  keyIds.filter fun keyId => (accounts.key? account keyId).isNone

def fitKeyIds (accounts : Accounts) (account : String) (keyIds : List String) : List String :=
  keyIds.filter fun keyId =>
    (accounts.key? account keyId).any ApplicationKey.isFitForDestination

theorem map_id_fitDestinationKeys (accounts : Accounts) (account : String)
    (keyIds : List String) :
    (fitDestinationKeys accounts account keyIds).map ApplicationKey.id =
      fitKeyIds accounts account keyIds := by
  induction keyIds with
  | nil => rfl
  | cons keyId rest induction =>
      rw [fitDestinationKeys, fitKeyIds] at *
      cases found : accounts.key? account keyId with
      | none => simpa [found] using induction
      | some key =>
          have same : key.id = keyId := Accounts.key?_id found
          cases fit : key.isFitForDestination with
          | false => simpa [found, fit] using induction
          | true => simpa [found, fit, same] using induction

def KeySurvey.extended (survey : KeySurvey) (accounts : Accounts) (account : String)
    (keyIds : List String) : KeySurvey :=
  ⟨survey.deleted ++ absentKeyIds accounts account keyIds,
    (fitDestinationKeys accounts account keyIds).getLast?.or survey.fit⟩

theorem KeySurvey.extended_nil (survey : KeySurvey) (accounts : Accounts) (account : String) :
    survey.extended accounts account [] = survey := by
  simp [extended, absentKeyIds, fitDestinationKeys]

theorem KeySurvey.extended_cons (survey : KeySurvey) (accounts : Accounts) (account : String)
    (keyId : String) (rest : List String) :
    (survey.extended accounts account [keyId]).extended accounts account rest =
      survey.extended accounts account (keyId :: rest) := by
  simp only [extended, absentKeyIds, fitDestinationKeys, List.filter_cons, List.filterMap_cons]
  cases accounts.key? account keyId with
  | none => simp
  | some key =>
      cases fit : key.isFitForDestination <;> simp [fit, List.getLast?_cons]

theorem KeySurvey.extended_singleton (survey : KeySurvey) (accounts : Accounts)
    (account keyId : String) :
    survey.extended accounts account [keyId] =
      match accounts.key? account keyId with
      | none => { survey with deleted := survey.deleted ++ [keyId] }
      | some key =>
        if key.isFitForDestination then { survey with fit := some key } else survey := by
  cases found : accounts.key? account keyId with
  | none => simp [extended, absentKeyIds, fitDestinationKeys, found]
  | some key =>
      cases fit : key.isFitForDestination <;>
        simp [extended, absentKeyIds, fitDestinationKeys, found, fit]

theorem inspectKey_yields (account : String) (survey : KeySurvey) (keyId : String)
    (accounts : Accounts) :
    (inspectKey Accounts.gateway account survey keyId).Yields accounts
      (.ok (survey.extended accounts account [keyId]), accounts) := by
  rw [KeySurvey.extended_singleton]
  unfold inspectKey
  refine .bind_ok (getKey_yields account keyId accounts) ?_
  cases accounts.key? account keyId with
  | none => exact .after_report (.after_count (.pure _))
  | some key =>
      by_cases fit : key.isFitForDestination = true
      · simp only [if_pos fit]
        exact .after_report (.pure _)
      · simp only [if_neg fit]
        exact .after_report (.pure _)

theorem surveyKeys_yields (account : String) (keyIds : List String) (survey : KeySurvey)
    (accounts : Accounts) :
    (surveyKeys Accounts.gateway account keyIds survey).Yields accounts
      (.ok (survey.extended accounts account keyIds), accounts) := by
  induction keyIds generalizing survey with
  | nil =>
      rw [KeySurvey.extended_nil]
      exact .pure survey
  | cons keyId rest induction =>
      rw [← KeySurvey.extended_cons]
      exact .bind_ok (inspectKey_yields account survey keyId accounts) (induction _)

theorem createDestinationKey_yields (settings : SetupSettings) (destination : Handle)
    (accounts : Accounts) :
    (createDestinationKey Accounts.gateway settings destination).Yields accounts
      (accounts.createKey destination.account
        (destinationKeyRequest settings destination.bucket)) := by
  unfold createDestinationKey
  exact .followed (createKey_yields destination.account _ accounts) fun key _ =>
    .after_report (.after_count (.pure key))

theorem destinationKey_yields (settings : SetupSettings) (destination : Handle)
    (mapping : KeyMapping) (accounts : Accounts) :
    (destinationKey Accounts.gateway settings destination mapping).Yields accounts
      (let keyIds := KeyMapping.destinationKeyIds mapping
      let deleted := absentKeyIds accounts destination.account keyIds
      match (fitDestinationKeys accounts destination.account keyIds).getLast? with
      | some key => (.ok (deleted, key), accounts)
      | none =>
        Outcome.bind
          (accounts.createKey destination.account
            (destinationKeyRequest settings destination.bucket))
          fun key after => (.ok (deleted, key), after)) := by
  have creation := createDestinationKey_yields settings destination accounts
  unfold destinationKey
  refine .bind_ok (surveyKeys_yields destination.account _ _ accounts) ?_
  simp only [KeySurvey.extended, List.nil_append, Option.or_none]
  cases (fitDestinationKeys accounts destination.account
      (KeyMapping.destinationKeyIds mapping)).getLast? with
  | some key => exact .pure _
  | none =>
      exact .after_report (.bind creation fun key _ => .pure _)

end BucketReplication.Setup
