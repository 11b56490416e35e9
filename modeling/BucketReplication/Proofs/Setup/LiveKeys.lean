import BucketReplication.Proofs.Setup.SideOutcome
import Mathlib.Data.List.Nodup

/-! # Live keys

The keys that a bucket names for a role and that are still there. As long as only setups
store settings there is one at most, and it is fit. A setup that finds it goes on with it,
and the key that a setup creates takes the place of one that was deleted. -/

namespace BucketReplication

theorem Bucket.keyIds_nodup (bucket : Bucket) (role : KeyRole) :
    (bucket.keyIds role).Nodup := by
  cases role with
  | source => cases named : bucket.sourceKeyId <;> simp [keyIds, named]
  | destination => exact KeyMapping.nodup_eraseDups _

namespace Accounts

def namedKeyIds (accounts : Accounts) (role : KeyRole) (account id : String) : List String :=
  match accounts.bucket? account id with
  | none => []
  | some bucket => bucket.keyIds role

def liveKeys (accounts : Accounts) (role : KeyRole) (account id : String) :
    List ApplicationKey :=
  (accounts.namedKeyIds role account id).filterMap (accounts.key? account)

def HasDeleted (accounts : Accounts) (account keyId : String) : Prop :=
  keyId ∈ (accounts.account account).createdKeys ∧ accounts.key? account keyId = none

/-- All keys that a bucket names for a role were created, and one of them is still there at
most. That one is fit for the role. -/
structure Supplied (accounts : Accounts) (role : KeyRole) (account id : String) : Prop where
  created : ∀ keyId ∈ accounts.namedKeyIds role account id,
    keyId ∈ (accounts.account account).createdKeys
  live : accounts.liveKeys role account id = [] ∨
    ∃ key, accounts.liveKeys role account id = [key] ∧ key.isFitFor role = true

variable {accounts after : Accounts} {role : KeyRole} {account id : String} {bucket : Bucket}
  {key : ApplicationKey}

theorem namedKeyIds_of_found (found : accounts.bucket? account id = some bucket)
    (role : KeyRole) : accounts.namedKeyIds role account id = bucket.keyIds role := by
  rw [namedKeyIds, found]

theorem mem_liveKeys : key ∈ accounts.liveKeys role account id ↔
    ∃ keyId ∈ accounts.namedKeyIds role account id, accounts.key? account keyId = some key :=
  List.mem_filterMap

theorem liveKeys_source (found : accounts.bucket? account id = some bucket) :
    accounts.liveKeys .source account id =
      (bucket.sourceKeyId.bind (accounts.key? account)).toList := by
  rw [liveKeys, namedKeyIds_of_found found, Bucket.keyIds]
  cases bucket.sourceKeyId with
  | none => rfl
  | some keyId => cases looked : accounts.key? account keyId <;> simp [looked]

theorem liveKeys_eq_singleton (found : accounts.bucket? account id = some bucket)
    (named : key.id ∈ bucket.keyIds role) (present : accounts.key? account key.id = some key)
    (only : ∀ keyId ∈ bucket.keyIds role, ∀ stored,
      accounts.key? account keyId = some stored → stored = key) :
    accounts.liveKeys role account id = [key] := by
  have distinct := bucket.keyIds_nodup role
  have absent (keyId : String) (listed : keyId ∈ bucket.keyIds role) (other : keyId ≠ key.id) :
      accounts.key? account keyId = none := by
    cases looked : accounts.key? account keyId with
    | none => rfl
    | some stored =>
        have same : stored.id = keyId := key?_id looked
        rw [only keyId listed stored looked] at same
        exact absurd same.symm other
  rw [liveKeys, namedKeyIds_of_found found]
  -- The ids before and behind it are others, so nothing is found under them.
  rcases List.append_of_mem named with ⟨before, behind, split⟩
  rw [split] at distinct absent ⊢
  rw [List.nodup_middle, List.nodup_cons, List.mem_append, not_or] at distinct
  have noneBefore : before.filterMap (accounts.key? account) = [] := by
    rw [List.filterMap_eq_nil_iff]
    intro keyId listed
    apply absent keyId (List.mem_append_left _ listed)
    rintro rfl
    exact distinct.1.1 listed
  have noneBehind : behind.filterMap (accounts.key? account) = [] := by
    rw [List.filterMap_eq_nil_iff]
    intro keyId listed
    apply absent keyId (List.mem_append_right _ (List.mem_cons_of_mem _ listed))
    rintro rfl
    exact distinct.1.2 listed
  simp [List.filterMap_append, noneBefore, noneBehind, present]

namespace Supplied

theorem live_of_mem (supplied : accounts.Supplied role account id)
    (isLive : key ∈ accounts.liveKeys role account id) :
    accounts.liveKeys role account id = [key] := by
  rcases supplied.live with none | ⟨other, one, _⟩
  · rw [none] at isLive
    cases isLive
  · rw [one] at isLive ⊢
    rw [List.mem_singleton.1 isLive]

theorem live_of_unfit (supplied : accounts.Supplied role account id)
    (unfit : ∀ keyId ∈ accounts.namedKeyIds role account id, ∀ stored,
      accounts.key? account keyId = some stored → stored.isFitFor role = false) :
    accounts.liveKeys role account id = [] := by
  rcases supplied.live with none | ⟨key, one, fit⟩
  · exact none
  · have isLive : key ∈ accounts.liveKeys role account id := by
      rw [one]
      exact List.mem_singleton_self key
    rcases mem_liveKeys.1 isLive with ⟨keyId, named, found⟩
    rw [unfit keyId named key found] at fit
    cases fit

theorem kept (supplied : accounts.Supplied role account id) (grows : accounts.Grows after)
    (names : after.namedKeyIds role account id = accounts.namedKeyIds role account id)
    (looksUp : ∀ keyId ∈ (accounts.account account).createdKeys,
      after.key? account keyId = accounts.key? account keyId) :
    after.liveKeys role account id = accounts.liveKeys role account id ∧
      after.Supplied role account id := by
  have same : after.liveKeys role account id = accounts.liveKeys role account id := by
    rw [liveKeys, names]
    exact List.filterMap_congr fun keyId named => looksUp keyId (supplied.created keyId named)
  refine ⟨same, ?_, ?_⟩
  · intro keyId named
    rw [names] at named
    exact (grows.keys account).subset (supplied.created keyId named)
  · rw [same]
    exact supplied.live

theorem start (ids : List String) (role : KeyRole) (account id : String) :
    (start ids).Supplied role account id where
  created := nofun
  live := .inl rfl

theorem createBucket {name bucketName : String}
    (supplied : accounts.Supplied role account id)
    (created : accounts.createBucket name bucketName = (.ok bucket, after))
    (listed : accounts.Listed) (distinct : after.IdsDistinct) :
    after.liveKeys role account id = accounts.liveKeys role account id ∧
      after.Supplied role account id := by
  refine supplied.kept (createBucket_grows created) ?_ fun keyId _ =>
    key?_createBucket created account keyId
  have fresh := createBucket_fresh created listed distinct
  rw [namedKeyIds, namedKeyIds, bucket?_createBucket created]
  by_cases here : name = account ∧ bucket.id = id
  · rcases here with ⟨rfl, rfl⟩
    rw [if_pos ⟨rfl, rfl⟩, fresh, (createBucket_ok created).1]
    cases role <;> rfl
  · rw [if_neg here]

theorem addsKey (supplied : accounts.Supplied role account id) (adds : accounts.AddsKey after)
    (distinct : after.IdsDistinct) :
    after.liveKeys role account id = accounts.liveKeys role account id ∧
      after.Supplied role account id := by
  refine supplied.kept adds.grows ?_ fun keyId listed => adds.key?_eq distinct listed
  rw [namedKeyIds, namedKeyIds, adds.bucket?]

theorem updateBucket {name bucketId : String} {revision : UInt64}
    {settings : ReplicationSettings} (supplied : accounts.Supplied role account id)
    (updated : accounts.updateBucket name bucketId revision settings = (.ok bucket, after))
    (names : name = account → bucketId = id →
      bucket.keyIds role = accounts.namedKeyIds role account id) :
    after.liveKeys role account id = accounts.liveKeys role account id ∧
      after.Supplied role account id := by
  refine supplied.kept (updateBucket_grows updated) ?_ fun keyId _ =>
    key?_updateBucket updated account keyId
  have sameId := updateBucket_id updated
  rw [namedKeyIds, bucket?_updateBucket updated, sameId]
  by_cases here : name = account ∧ bucketId = id
  · rw [if_pos here]
    exact names here.1 here.2
  · rw [if_neg here, namedKeyIds]

end Supplied

/-! ## Deleting a key -/

theorem liveKeys_deleteKey (accounts : Accounts) (owner keyId : String) (role : KeyRole)
    (account id : String) :
    (accounts.deleteKey owner keyId).2.liveKeys role account id =
      if owner = account then
        (accounts.liveKeys role account id).filter fun key => key.id ≠ keyId
      else accounts.liveKeys role account id := by
  have names : (accounts.deleteKey owner keyId).2.namedKeyIds role account id =
      accounts.namedKeyIds role account id := by
    rw [namedKeyIds, namedKeyIds, bucket?_deleteKey]
  rw [liveKeys, liveKeys, names]
  split
  · rename_i here
    rw [List.filter_filterMap]
    apply List.filterMap_congr
    intro named _
    rw [key?_deleteKey]
    cases found : accounts.key? account named with
    | none => simp
    | some key =>
        have same : key.id = named := key?_id found
        rw [Option.filter_some]
        by_cases gone : keyId = named
        · simp [here, gone, same]
        · simp [here, gone, same, Ne.symm gone]
  · rename_i elsewhere
    apply List.filterMap_congr
    intro named _
    rw [key?_deleteKey, if_neg fun here => elsewhere here.1]

theorem Supplied.deleteKey (supplied : accounts.Supplied role account id)
    (owner keyId : String) : (accounts.deleteKey owner keyId).2.Supplied role account id := by
  have grows := deleteKey_grows accounts owner keyId
  constructor
  · intro named listed
    rw [namedKeyIds, bucket?_deleteKey] at listed
    exact (grows.keys account).subset (supplied.created named listed)
  · rw [liveKeys_deleteKey]
    split
    · rcases supplied.live with none | ⟨key, one, fit⟩
      · exact .inl (by rw [none]; rfl)
      · rw [one, List.filter_singleton]
        cases decide (key.id ≠ keyId) with
        | false => exact .inl rfl
        | true => exact .inr ⟨key, rfl, fit⟩
    · exact supplied.live

end Accounts

/-! ## One side of a setup -/

namespace Setup.Side

/-- What a side comes to that succeeds. The key that it stores is the live one of its bucket
then. It was before, or else there was none and the key is new. -/
structure Settles (side : Side) (before : Accounts) (key : ApplicationKey) (handle : Handle)
    (after : Accounts) : Prop where
  shown : before.bucket? side.handle.account side.handle.bucket.id = some side.handle.bucket
  stored : after.bucket? side.handle.account side.handle.bucket.id = some handle.bucket
  stores : handle.bucket = side.handle.bucket.updated (side.stores key.id)
  live : after.liveKeys side.role side.handle.account side.handle.bucket.id = [key]
  fit : key.isFitFor side.role = true
  kept : before.liveKeys side.role side.handle.account side.handle.bucket.id ≠ [] →
    before.liveKeys side.role side.handle.account side.handle.bucket.id = [key] ∧
      (after.account side.handle.account).keys = (before.account side.handle.account).keys
  renewed : before.liveKeys side.role side.handle.account side.handle.bucket.id = [] →
    key.id ∉ (before.account side.handle.account).createdKeys ∧
      (after.account side.handle.account).keys =
        (before.account side.handle.account).keys ++ [key]

variable {side : Side} {accounts between after : Accounts} {handle : Handle}
  {key : ApplicationKey}

theorem Lawful.live_after (lawful : side.Lawful)
    (shown : between.bucket? side.handle.account side.handle.bucket.id = some side.handle.bucket)
    (updated : between.updateBucket side.handle.account side.handle.bucket.id
      side.handle.bucket.revision (side.stores key.id) = (.ok handle.bucket, after))
    (present : between.key? side.handle.account key.id = some key)
    (only : ∀ other ∈ between.liveKeys side.role side.handle.account side.handle.bucket.id,
      other = key) :
    after.bucket? side.handle.account side.handle.bucket.id = some handle.bucket ∧
      handle.bucket = side.handle.bucket.updated (side.stores key.id) ∧
      after.liveKeys side.role side.handle.account side.handle.bucket.id = [key] := by
  have stored : after.bucket? side.handle.account side.handle.bucket.id = some handle.bucket := by
    rw [Accounts.bucket?_updateBucket updated,
      if_pos ⟨rfl, Accounts.updateBucket_id updated⟩]
  have stores : handle.bucket = side.handle.bucket.updated (side.stores key.id) := by
    rcases Accounts.updateBucket_ok updated with ⟨_, current, found, _, follows, _⟩
    cases shown.symm.trans found
    exact follows
  have looksUp := Accounts.key?_updateBucket updated side.handle.account
  refine ⟨stored, stores, Accounts.liveKeys_eq_singleton stored ?_ ?_ ?_⟩
  · rw [stores]
    exact lawful.names key.id
  · rw [looksUp]
    exact present
  · intro keyId listed found presentThen
    rw [looksUp] at presentThen
    rw [stores] at listed
    rcases lawful.carries key.id keyId listed with rfl | before
    · exact Option.some.inj (presentThen.symm.trans present)
    · apply only
      rw [Accounts.mem_liveKeys, Accounts.namedKeyIds_of_found shown]
      exact ⟨keyId, before, presentThen⟩

theorem Carried.settles (carried : side.Carried accounts (.ok handle, after))
    (lawful : side.Lawful)
    (shown : accounts.bucket? side.handle.account side.handle.bucket.id =
      some side.handle.bucket)
    (supplied : accounts.Supplied side.role side.handle.account side.handle.bucket.id)
    (listed : accounts.Listed) (distinct : after.IdsDistinct) :
    ∃ key, side.Settles accounts key handle after := by
  have names := Accounts.namedKeyIds_of_found shown side.role
  cases carried with
  | @reused key handle after named found fit updated =>
      have live : accounts.liveKeys side.role side.handle.account side.handle.bucket.id =
          [key] := by
        apply supplied.live_of_mem
        rw [Accounts.mem_liveKeys, names]
        exact ⟨key.id, named, found⟩
      rcases lawful.live_after shown updated found (by simp [live]) with
        ⟨stored, stores, liveAfter⟩
      exact ⟨key, shown, stored, stores, liveAfter, fit,
        fun _ => ⟨live, Accounts.keys_updateBucket updated _⟩,
        fun none => absurd (live.symm.trans none) nofun⟩
  | @renewed key handle between after unfit created updated =>
      have adds : accounts.AddsKey between := .inr ⟨_, _, key, created⟩
      have distinctBetween := (Accounts.updateBucket_grows updated).idsDistinct distinct
      have live : accounts.liveKeys side.role side.handle.account side.handle.bucket.id = [] := by
        apply supplied.live_of_unfit
        rw [names]
        exact unfit
      have shownBetween := (adds.bucket? _ _).trans shown
      have present : between.key? side.handle.account key.id = some key := by
        rw [Accounts.key?_createKey created, if_pos ⟨rfl, rfl⟩]
      have liveBetween := (supplied.addsKey adds distinctBetween).1.trans live
      rcases lawful.live_after shownBetween updated present (by simp [liveBetween]) with
        ⟨stored, stores, liveAfter⟩
      have fit : key.isFitFor side.role = true := by
        rw [(Accounts.createKey_ok created).1]
        exact granted_isFitFor side.settings side.handle.bucket side.role _
      have fresh := Accounts.createKey_fresh created listed distinctBetween
      refine ⟨key, shown, stored, stores, liveAfter, fit, fun some => absurd live some,
        fun _ => ⟨Accounts.createKey_new created distinctBetween, ?_⟩⟩
      rw [Accounts.keys_updateBucket updated, Accounts.keys_createKey created fresh, if_pos rfl]

theorem Settles.supplied (settles : side.Settles accounts key handle after)
    (lawful : side.Lawful)
    (supplied : accounts.Supplied side.role side.handle.account side.handle.bucket.id)
    (grows : accounts.Grows after) (listed : after.Listed) :
    after.Supplied side.role side.handle.account side.handle.bucket.id where
  created keyId named := by
    rw [Accounts.namedKeyIds_of_found settles.stored, settles.stores] at named
    rcases lawful.carries key.id keyId named with rfl | before
    · have isLive : key ∈ after.liveKeys side.role side.handle.account
          side.handle.bucket.id := by
        rw [settles.live]
        exact List.mem_singleton_self key
      rcases Accounts.mem_liveKeys.1 isLive with ⟨sameId, _, present⟩
      rw [Accounts.key?_id present]
      exact listed.key present
    · apply (grows.keys _).subset
      apply supplied.created
      rwa [Accounts.namedKeyIds_of_found settles.shown]
  live := .inr ⟨key, settles.live, settles.fit⟩

theorem Lawful.live_elsewhere {role : KeyRole} {account id : String} (lawful : side.Lawful)
    (shown : between.bucket? side.handle.account side.handle.bucket.id = some side.handle.bucket)
    (updated : between.updateBucket side.handle.account side.handle.bucket.id
      side.handle.bucket.revision (side.stores key.id) = (.ok handle.bucket, after))
    (supplied : between.Supplied role account id)
    (other : ¬ (side.role = role ∧ side.handle.account = account ∧ side.handle.bucket.id = id)) :
    after.liveKeys role account id = between.liveKeys role account id ∧
      after.Supplied role account id := by
  apply supplied.updateBucket updated
  rintro rfl rfl
  have otherRole : role ≠ side.role := fun same => other ⟨same.symm, rfl, rfl⟩
  rcases Accounts.updateBucket_ok updated with ⟨_, current, found, _, follows, _⟩
  cases shown.symm.trans found
  rw [follows, lawful.keeps key.id role otherRole, Accounts.namedKeyIds_of_found shown]

theorem Carried.elsewhere {result : Except Error Handle} {role : KeyRole} {account id : String}
    (carried : side.Carried accounts (result, after)) (lawful : side.Lawful)
    (shown : ∀ handle, result = .ok handle →
      accounts.bucket? side.handle.account side.handle.bucket.id = some side.handle.bucket)
    (supplied : accounts.Supplied role account id) (distinct : after.IdsDistinct)
    (other : ∀ handle, result = .ok handle →
      ¬ (side.role = role ∧ side.handle.account = account ∧ side.handle.bucket.id = id)) :
    after.liveKeys role account id = accounts.liveKeys role account id ∧
      after.Supplied role account id := by
  cases carried with
  | failed adds => exact supplied.addsKey adds distinct
  | @reused key handle after named found fit updated =>
      exact lawful.live_elsewhere (shown handle rfl) updated supplied (other handle rfl)
  | @renewed key handle between after unfit created updated =>
      have adds : accounts.AddsKey between := .inr ⟨_, _, key, created⟩
      have distinctBetween := (Accounts.updateBucket_grows updated).idsDistinct distinct
      have shownBetween := (adds.bucket? _ _).trans (shown handle rfl)
      rcases supplied.addsKey adds distinctBetween with ⟨same, suppliedBetween⟩
      rw [← same]
      exact lawful.live_elsewhere shownBetween updated suppliedBetween (other handle rfl)

end Setup.Side

end BucketReplication
