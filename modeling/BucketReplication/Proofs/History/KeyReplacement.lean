import BucketReplication.Proofs.History.Turn

/-! # Keys are replaced only after deletion

While all settings are stored by setups that are not interrupted, a bucket has one live key
at most for each role, and a setup makes a new one only if there is none. So the keys that
setups create for a bucket are those of it that were deleted, in order, and behind them the
live one. -/

namespace BucketReplication

namespace Request

/-- The request stores settings only as a setup does that is not interrupted. -/
def isUninterrupted : Request → Bool
  | .update .. => false
  | .storeRule .. => false
  | .storeMapping .. => false
  | _ => true

def keysCreated (role : KeyRole) (account id : String) (accounts : Accounts)
    (request : Request) : List ApplicationKey :=
  (request.turns accounts).flatMap fun turn => turn.keysCreated role account id

def keysDeleted (role : KeyRole) (account id : String) (accounts : Accounts) :
    Request → List ApplicationKey
  | .deleteKey owner keyId =>
    if owner = account then
      (accounts.liveKeys role account id).filter fun key => key.id = keyId
    else []
  | _ => []

end Request

/-! ## Turns that succeed -/

namespace Turn

variable {settings : SetupSettings} {source destination handle : Handle} {wished : NewRule}
  {sourceKeyId : String} {before after : Accounts}

theorem ofDestination_keeps_live
    (proper : (ofDestination settings sourceKeyId destination before).Proper)
    (supplied : before.Supplied .destination destination.account destination.bucket.id)
    (succeeded : (Setup.setupDestination Accounts.gateway settings sourceKeyId
      destination).outcome before = (.ok handle, after)) :
    let live := before.liveKeys .destination destination.account destination.bucket.id
    let keys := (before.account destination.account).keys
    let keysAfter := (after.account destination.account).keys
    after.bucket? destination.account destination.bucket.id = some handle.bucket ∧
      ((∃ key, keysAfter = keys ++ [key]) ↔ live = []) ∧
      ∀ key ∈ live, keysAfter = keys ∧
        KeyMapping.lookup handle.bucket.keyMapping sourceKeyId = some key.id := by
  intro live keys keysAfter
  rcases proper.settles succeeded supplied with ⟨key, settles⟩
  refine ⟨settles.stored, ⟨?_, ?_⟩, ?_⟩
  · rintro ⟨new, grown⟩
    by_cases none : live = []
    · exact none
    · have same : keysAfter = keys := (settles.kept none).2
      rw [same] at grown
      simp at grown
  · intro none
    exact ⟨key, (settles.renewed none).2⟩
  · intro other isLive
    rcases settles.kept (List.ne_nil_of_mem isLive) with ⟨one, same⟩
    have isKey : other ∈ [key] := one ▸ isLive
    rw [List.mem_singleton.1 isKey, settles.stores]
    exact ⟨same, (KeyMapping.lookup_map ..).trans (if_pos rfl)⟩

theorem ofSource_keeps_live
    (proper : (ofSource settings source destination wished before).Proper)
    (supplied : before.Supplied .source source.account source.bucket.id)
    (succeeded : (Setup.setupSource Accounts.gateway settings source destination
      wished).outcome before = (.ok handle, after)) :
    ∃ stored, before.bucket? source.account source.bucket.id = some stored ∧
      after.bucket? source.account source.bucket.id = some handle.bucket ∧
      (handle.bucket.sourceKeyId ≠ stored.sourceKeyId ↔
        stored.sourceKeyId = none ∨
          ∃ keyId, stored.sourceKeyId = some keyId ∧
            before.HasDeleted source.account keyId) := by
  rcases proper.settles succeeded supplied with ⟨key, settles⟩
  have shown : before.bucket? source.account source.bucket.id = some source.bucket :=
    settles.shown
  have names : handle.bucket.sourceKeyId = some key.id := by
    rw [settles.stores]
    rfl
  refine ⟨source.bucket, shown, settles.stored, ?_⟩
  rw [names]
  have live := Accounts.liveKeys_source shown
  cases set : source.bucket.sourceKeyId with
  | none => simp
  | some keyId =>
      rw [set, Option.bind_some] at live
      cases found : before.key? source.account keyId with
      | none =>
          rw [found] at live
          have created : keyId ∈ (before.account source.account).createdKeys := by
            apply supplied.created
            rw [Accounts.namedKeyIds_of_found shown, Bucket.keyIds, set]
            exact List.mem_singleton_self keyId
          have new := (settles.renewed live).1
          refine iff_of_true ?_ (.inr ⟨keyId, rfl, created, found⟩)
          intro same
          cases same
          exact new created
      | some stored =>
          rw [found] at live
          have one : [stored] = [key] := by
            rw [← (settles.kept (live.symm ▸ List.cons_ne_nil _ _)).1]
            exact live.symm
          have same : key.id = keyId := by
            rw [← List.singleton_inj.1 one]
            exact Accounts.key?_id found
          refine iff_of_false (not_not_intro (congrArg some same)) ?_
          rintro (unset | ⟨other, alsoNames, _, gone⟩)
          · cases unset
          · cases alsoNames
            cases found.symm.trans gone

end Turn

namespace Session

def collect (collects : Accounts → Request → List ApplicationKey) (session : Session) :
    List Request → List ApplicationKey
  | [] => []
  | request :: rest =>
    collects session.accounts request ++ (session.step request).collect collects rest

variable {session : Session} {request : Request} {role : KeyRole} {account id : String}

/-! ## One request -/

theorem keys_unchanged {accounts after : Accounts}
    (kept : after.liveKeys role account id = accounts.liveKeys role account id ∧
      after.Supplied role account id) :
    accounts.liveKeys role account id ++ [] = [] ++ after.liveKeys role account id ∧
      after.Supplied role account id := by
  rw [List.append_nil, List.nil_append, kept.1]
  exact ⟨rfl, kept.2⟩

theorem keys_deleted {accounts : Accounts} (supplied : accounts.Supplied role account id)
    (owner keyId : String) :
    accounts.liveKeys role account id =
      (Request.deleteKey owner keyId).keysDeleted role account id accounts ++
        (accounts.deleteKey owner keyId).2.liveKeys role account id := by
  rw [Request.keysDeleted, Accounts.liveKeys_deleteKey]
  split
  · rcases supplied.live with none | ⟨key, one, _⟩
    · rw [none]
      rfl
    · rw [one]
      by_cases gone : key.id = keyId <;> simp [gone]
  · rfl

theorem turns_sequence (sound : session.Sound) (holds : session.Holds request)
    (orderly : (session.step request).chronicle.Orderly)
    (setsUp : request.turns session.accounts ≠ []) :
    Turn.Sequence session.accounts (request.turns session.accounts)
      (session.step request).accounts := by
  have known (handle : Handle) (written : handle ∈ request.written) :
      ∃ count, session.chronicle.Known handle count :=
    sound.known_handle (holds handle written)
  cases request with
  | setupSource settings source destination wished =>
      exact Chronicle.setupSource_sequence sound.coherent
        (known source (by simp [Request.written])) orderly
  | setupDestination settings sourceKeyId destination =>
      exact Chronicle.setupDestination_sequence sound.coherent
        (known destination (by simp [Request.written])) orderly
  | setupBoth settings source destination wished =>
      exact Chronicle.setupBoth_sequence sound.coherent
        (known source (by simp [Request.written]))
        (known destination (by simp [Request.written])) orderly
  | _ => exact absurd rfl setsUp

/-- What was live and what a request creates is what it deletes and what is live then. -/
theorem step_keys (sound : session.Sound) (holds : session.Holds request)
    (uninterrupted : request.isUninterrupted = true)
    (orderly : (session.step request).chronicle.Orderly)
    (supplied : session.accounts.Supplied role account id) :
    session.accounts.liveKeys role account id ++
          request.keysCreated role account id session.accounts =
        request.keysDeleted role account id session.accounts ++
          (session.step request).accounts.liveKeys role account id ∧
      (session.step request).accounts.Supplied role account id := by
  have listed := sound.coherent.listed
  have distinct := orderly.distinct
  have sequence := turns_sequence sound holds orderly
  unfold accounts step at *
  cases request with
  | createBucket owner name =>
      rw [Chronicle.accounts_createBucket] at distinct ⊢
      rcases created : session.chronicle.accounts.createBucket owner name with
        ⟨error | bucket, after⟩
      · rw [Accounts.createBucket_error created]
        exact keys_unchanged ⟨rfl, supplied⟩
      · rw [created] at distinct
        exact keys_unchanged (supplied.createBucket created listed distinct)
  | fetch owner name =>
      rw [Chronicle.accounts_fetch]
      exact keys_unchanged ⟨rfl, supplied⟩
  | findBucket owner bucketId =>
      rw [Chronicle.accounts_findBucket]
      exact keys_unchanged ⟨rfl, supplied⟩
  | createKey owner request =>
      exact keys_unchanged
        (supplied.addsKey (Accounts.createKey_addsKey _ owner request) distinct)
  | deleteKey owner keyId =>
      refine ⟨?_, supplied.deleteKey owner keyId⟩
      exact (List.append_nil _).trans (keys_deleted supplied owner keyId)
  | setupSource settings source destination wished =>
      exact (sequence (by simp [Request.turns])).adds_live supplied
  | setupDestination settings sourceKeyId destination =>
      exact (sequence (by simp [Request.turns])).adds_live supplied
  | setupBoth settings source destination wished =>
      refine (sequence ?_).adds_live supplied
      rw [Request.turns]
      split <;> exact List.cons_ne_nil _ _
  | _ => cases uninterrupted

/-! ## Whole runs -/

theorem run_keys {requests : List Request} (sound : session.Sound)
    (follows : session.Follows (fun _ request => request.isUninterrupted = true) requests)
    (orderly : (session.run requests).chronicle.Orderly)
    (supplied : session.accounts.Supplied role account id) :
    session.accounts.liveKeys role account id ++
          session.collect (Request.keysCreated role account id) requests =
        session.collect (Request.keysDeleted role account id) requests ++
          (session.run requests).accounts.liveKeys role account id ∧
      (session.run requests).accounts.Supplied role account id := by
  induction requests generalizing session with
  | nil => exact ⟨List.append_nil _, supplied⟩
  | cons request rest induction =>
      rcases follows with ⟨⟨holds, uninterrupted⟩, later⟩
      have orderlyNext := (run_continued (session.step request) rest).orderly orderly
      rcases step_keys sound holds uninterrupted orderlyNext supplied with ⟨first, suppliedNext⟩
      rcases induction (sound.step holds orderlyNext) later orderly suppliedNext with
        ⟨others, suppliedLast⟩
      refine ⟨?_, suppliedLast⟩
      rw [collect, collect, run, ← List.append_assoc, first, List.append_assoc, others,
        List.append_assoc]

/-- Take any run from empty accounts in which all settings are stored by setups that are not
interrupted, whatever handles these go by. At every moment one of the keys that a bucket
maps to is there at most, and it is fit to write with. A destination side that succeeds
creates a key exactly if none of them is there, and maps to the one that is otherwise. A
source side that succeeds changes the source key exactly if there was none or it was
deleted. So for each role the keys that successful setups created for a bucket are its live
keys that were deleted, in order, and the one it has: one more than deletions at most. -/
theorem keys_replaced_after_deletion {ids : List String} {requests : List Request}
    (follows : (start ids).Follows (fun _ request => request.isUninterrupted = true) requests)
    (distinct : ((start ids).run requests).accounts.IdsDistinct)
    (few : UpdatesBelow ((start ids).run requests).versions (UInt64.size - 1))
    (account id : String) :
    (∀ earlier later, requests = earlier ++ later →
      let live := ((start ids).run earlier).accounts.liveKeys .destination account id
      live = [] ∨ ∃ key, live = [key] ∧ key.isFitForDestination = true) ∧
    (∀ earlier request later, requests = earlier ++ request :: later →
      let turns := request.turns ((start ids).run earlier).accounts
      (∀ settings sourceKeyId destination before handle after,
        .ofDestination settings sourceKeyId destination before ∈ turns →
        (Setup.setupDestination Accounts.gateway settings sourceKeyId
          destination).outcome before = (.ok handle, after) →
        let live := before.liveKeys .destination destination.account destination.bucket.id
        let keys := (before.account destination.account).keys
        let keysAfter := (after.account destination.account).keys
        after.bucket? destination.account destination.bucket.id = some handle.bucket ∧
          ((∃ key, keysAfter = keys ++ [key]) ↔ live = []) ∧
          ∀ key ∈ live, keysAfter = keys ∧
            KeyMapping.lookup handle.bucket.keyMapping sourceKeyId = some key.id) ∧
      ∀ settings source destination wished before handle after,
        .ofSource settings source destination wished before ∈ turns →
        (Setup.setupSource Accounts.gateway settings source destination
          wished).outcome before = (.ok handle, after) →
        ∃ stored, before.bucket? source.account source.bucket.id = some stored ∧
          after.bucket? source.account source.bucket.id = some handle.bucket ∧
          (handle.bucket.sourceKeyId ≠ stored.sourceKeyId ↔
            stored.sourceKeyId = none ∨
              ∃ keyId, stored.sourceKeyId = some keyId ∧
                before.HasDeleted source.account keyId)) ∧
    ∀ role,
      let created := (start ids).collect (Request.keysCreated role account id) requests
      let deleted := (start ids).collect (Request.keysDeleted role account id) requests
      created = deleted ++ ((start ids).run requests).accounts.liveKeys role account id ∧
        created.length ≤ 1 + deleted.length := by
  have orderly : ((start ids).run requests).chronicle.Orderly := ⟨distinct, few⟩
  have suppliedStart := fun role account id => Accounts.Supplied.start ids role account id
  refine ⟨?live, ?turns, ?count⟩
  case live =>
    rintro earlier later rfl
    rw [run_append] at orderly
    have before := (run_continued _ later).orderly orderly
    exact (run_keys (sound_start ids) (follows_append.1 follows).1 before
      (suppliedStart .destination account id)).2.live
  case turns =>
    rintro earlier request later rfl
    rcases follows_append.1 follows with ⟨followsEarlier, ⟨holds, _⟩, _⟩
    rw [run_append] at orderly
    have orderlyNext := (run_continued _ later).orderly orderly
    have before := (step_continued _ request).orderly orderlyNext
    have sound := (Reached.run (.start ids) followsEarlier).sound before
    have supplied := fun role account id => (run_keys (sound_start ids) followsEarlier before
      (suppliedStart role account id)).2
    have taken (turn : Turn) (listed : turn ∈ request.turns ((start ids).run earlier).accounts) :
        turn.Proper ∧ ∀ role account id, turn.before.Supplied role account id :=
      (turns_sequence sound holds orderlyNext (List.ne_nil_of_mem listed)).proper_of_mem
        supplied listed
    constructor
    · intro settings sourceKeyId destination before handle after listed succeeded
      rcases taken _ listed with ⟨proper, suppliedThen⟩
      exact Turn.ofDestination_keeps_live proper (suppliedThen _ _ _) succeeded
    · intro settings source destination wished before handle after listed succeeded
      rcases taken _ listed with ⟨proper, suppliedThen⟩
      exact Turn.ofSource_keeps_live proper (suppliedThen _ _ _) succeeded
  case count =>
    intro role created deleted
    rcases run_keys (sound_start ids) follows orderly (suppliedStart role account id) with
      ⟨same, supplied⟩
    have whole : created =
        deleted ++ ((start ids).run requests).accounts.liveKeys role account id := same
    refine ⟨whole, ?_⟩
    have one : (((start ids).run requests).accounts.liveKeys role account id).length ≤ 1 := by
      rcases supplied.live with none | ⟨key, one, _⟩
      · simp [none]
      · simp [one]
    rw [whole, List.length_append]
    omega

/-! ## A tour with a deleted key -/

def rekeyedIds : List String := tourIds ++ ["key-3"]

def rekeyedSource : Handle :=
  let source : Bucket := .new "bucket-1" "photos"
  ⟨"west", source.updated (Setup.settingsWithRule source "key-1"
    (Setup.ruleToAdd .default source (.new "bucket-2" "backup") .derived))⟩

def rekeyedRequests : List Request :=
  tourRequests ++ [.deleteKey "west" "key-1",
    .setupSource .default rekeyedSource ⟨"east", .new "bucket-2" "backup"⟩ .derived]

theorem keys_replaced_after_deletion_rekeyed :
    (start rekeyedIds).Follows (fun _ request => request.isUninterrupted = true)
        rekeyedRequests ∧
      ((start rekeyedIds).run rekeyedRequests).accounts.IdsDistinct ∧
      UpdatesBelow ((start rekeyedIds).run rekeyedRequests).versions (UInt64.size - 1) ∧
      ((start rekeyedIds).collect (Request.keysCreated .source "west" "bucket-1")
        rekeyedRequests).map ApplicationKey.id = ["key-1", "key-3"] := by
  have follows : (start rekeyedIds).Follows (fun _ request => request.isUninterrupted = true)
      rekeyedRequests := by
    decide
  have distinct : ((start rekeyedIds).run rekeyedRequests).accounts.IdsDistinct :=
    Accounts.idsDistinct_of_entries (by decide)
  have few : UpdatesBelow ((start rekeyedIds).run rekeyedRequests).versions (UInt64.size - 1) :=
    .of_length (by decide)
  have deleted : ((start rekeyedIds).collect (Request.keysDeleted .source "west" "bucket-1")
      rekeyedRequests).map ApplicationKey.id = ["key-1"] := by
    decide
  have live : (((start rekeyedIds).run rekeyedRequests).accounts.liveKeys .source "west"
      "bucket-1").map ApplicationKey.id = ["key-3"] := by
    decide
  have created := ((keys_replaced_after_deletion follows distinct few "west" "bucket-1").2.2
    .source).1
  refine ⟨follows, distinct, few, ?_⟩
  rw [created, List.map_append, deleted, live]
  rfl

end Session

end BucketReplication
