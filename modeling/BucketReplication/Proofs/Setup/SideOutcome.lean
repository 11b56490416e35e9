import BucketReplication.Proofs.Setup.Conversation
import BucketReplication.Proofs.Setup.FitKey

/-! # One side of a setup on accounts

What becomes of accounts when one side of a setup is carried out on them. If it fails it
leaves one key more at most. If it succeeds it stored its record with a key that the bucket
names already, or with a new one when none of those was fit. -/

namespace BucketReplication

namespace Setup

theorem granted_isFitFor (settings : SetupSettings) (bucket : Bucket) (role : KeyRole)
    (id : String) : ((keyRequest settings bucket role).granted id).isFitFor role = true := by
  cases role with
  | source => exact granted_isFitForSource settings bucket id
  | destination => exact granted_isFitForDestination settings bucket id

namespace Side

/-- What a side stores names the new key for its role, besides keys that were named before,
and it changes nothing about the other role. -/
structure Lawful (side : Side) : Prop where
  names : ∀ keyId, keyId ∈ (side.handle.bucket.updated (side.stores keyId)).keyIds side.role
  carries : ∀ keyId, ∀ named ∈ (side.handle.bucket.updated (side.stores keyId)).keyIds side.role,
    named = keyId ∨ named ∈ side.keyIds
  keeps : ∀ keyId role, role ≠ side.role →
    (side.handle.bucket.updated (side.stores keyId)).keyIds role = side.handle.bucket.keyIds role

inductive Carried (side : Side) (accounts : Accounts) : Outcome Accounts Handle → Prop where
  | failed {error : Error} {after : Accounts} (adds : accounts.AddsKey after) :
      Carried side accounts (.error error, after)
  | reused {key : ApplicationKey} {handle : Handle} {after : Accounts}
      (named : key.id ∈ side.keyIds)
      (found : accounts.key? side.handle.account key.id = some key)
      (fit : key.isFitFor side.role = true)
      (updated : accounts.updateBucket side.handle.account side.handle.bucket.id
        side.handle.bucket.revision (side.stores key.id) = (.ok handle.bucket, after)) :
      Carried side accounts (.ok handle, after)
  | renewed {key : ApplicationKey} {handle : Handle} {between after : Accounts}
      (unfit : ∀ named ∈ side.keyIds, ∀ stored,
        accounts.key? side.handle.account named = some stored → stored.isFitFor side.role = false)
      (created : accounts.createKey side.handle.account
        (keyRequest side.settings side.handle.bucket side.role) = (.ok key, between))
      (updated : between.updateBucket side.handle.account side.handle.bucket.id
        side.handle.bucket.revision (side.stores key.id) = (.ok handle.bucket, after)) :
      Carried side accounts (.ok handle, after)

end Side

variable {accounts after : Accounts} {settings : SetupSettings} {source destination : Handle}
  {wished : NewRule} {sourceKeyId : String}

theorem sourceSide_lawful (settings : SetupSettings) (source destination : Handle)
    (wished : NewRule) : (sourceSide settings source destination wished).Lawful where
  names keyId := List.mem_singleton_self keyId
  carries keyId named inStored := .inl (List.mem_singleton.1 inStored)
  keeps keyId role other := by
    cases role with
    | source => exact absurd rfl other
    | destination => rfl

theorem destinationSide_lawful (settings : SetupSettings) (sourceKeyId : String)
    (destination : Handle) : (destinationSide settings sourceKeyId destination).Lawful := by
  have mapping (keyId : String) := keyMapping_settingsWithMapping destination.bucket sourceKeyId keyId
  constructor
  · intro keyId
    apply KeyMapping.mem_destinationKeyIds.2
    refine ⟨(sourceKeyId, keyId), KeyMapping.mem_items_of_lookup ?_, rfl⟩
    exact (KeyMapping.lookup_map _ _ _ _).trans (if_pos rfl)
  · intro keyId named inStored
    rcases KeyMapping.mem_destinationKeyIds.1 inStored with ⟨entry, inMapping, rfl⟩
    rcases KeyMapping.mem_items_map inMapping with rfl | before
    · exact .inl rfl
    · exact .inr (KeyMapping.mem_destinationKeyIds.2 ⟨entry, before, rfl⟩)
  · intro keyId role other
    cases role with
    | source =>
        exact congrArg Option.toList
          (sourceKeyId_settingsWithMapping destination.bucket sourceKeyId keyId)
    | destination => exact absurd rfl other

theorem setupSource_carried (settings : SetupSettings) (source destination : Handle)
    (wished : NewRule) (accounts : Accounts) :
    (sourceSide settings source destination wished).Carried accounts
      ((setupSource Accounts.gateway settings source destination wished).outcome accounts) := by
  rcases result : (setupSource Accounts.gateway settings source destination wished).outcome
    accounts with ⟨error | handle, after⟩
  · exact .failed (setupSource_error result)
  · rcases setupSource_ok result with ⟨key, between, chosen, updated, _⟩
    rcases sourceKey_ok chosen with ⟨reused, rfl⟩ | ⟨none, created⟩
    · rcases Option.filter_eq_some_iff.1 reused with ⟨found, fit⟩
      rcases Option.bind_eq_some_iff.1 found with ⟨keyId, names, present⟩
      have same : key.id = keyId := Accounts.key?_id present
      subst same
      exact .reused (Option.mem_toList.2 names) present fit updated
    · refine .renewed (fun named listed stored found => ?_) created updated
      have names : source.bucket.sourceKeyId = some named := Option.mem_toList.1 listed
      have present : accounts.key? source.account named = some stored := found
      rw [fitSourceKey?, names, Option.bind_some, present, Option.filter_some] at none
      split at none
      · cases none
      · rename_i unfit
        exact Bool.eq_false_iff.2 unfit

theorem setupDestination_carried (settings : SetupSettings) (sourceKeyId : String)
    (destination : Handle) (accounts : Accounts) :
    (destinationSide settings sourceKeyId destination).Carried accounts
      ((setupDestination Accounts.gateway settings sourceKeyId destination).outcome
        accounts) := by
  rcases result : (setupDestination Accounts.gateway settings sourceKeyId destination).outcome
    accounts with ⟨error | handle, after⟩
  · exact .failed (setupDestination_error result)
  · rcases setupDestination_ok result with ⟨deleted, key, between, chosen, updated, _⟩
    rcases destinationKey_ok chosen with ⟨last, rfl⟩ | ⟨none, created⟩
    · rcases List.mem_filter.1 (List.mem_of_getLast? last) with ⟨found, fit⟩
      rcases List.mem_filterMap.1 found with ⟨keyId, listed, present⟩
      have same : key.id = keyId := Accounts.key?_id present
      subst same
      exact .reused listed present fit updated
    · refine .renewed (fun named listed stored found => ?_) created updated
      have unfit := List.filter_eq_nil_iff.1 none stored
        (List.mem_filterMap.2 ⟨named, listed, found⟩)
      exact Bool.eq_false_iff.2 unfit

end Setup

end BucketReplication
