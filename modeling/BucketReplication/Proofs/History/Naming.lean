import BucketReplication.Proofs.Accounts.Index
import BucketReplication.Proofs.History.Session

/-! # Buckets by name

Whatever is asked for, and by whatever handles, a bucket stays where it was created:
its name leads to it, its record keeps the name, and no other bucket can be created
under the name. All of this needs no more than that no id is given out twice. -/

namespace BucketReplication

namespace Chronicle

variable {used : Handle → Prop} {before after : Chronicle}

theorem Write.indexed (write : Write used before after) (indexed : before.accounts.Indexed)
    (distinct : after.accounts.IdsDistinct) : after.accounts.Indexed := by
  cases write with
  | createBucket created => exact Accounts.createBucket_indexed created indexed distinct
  | createKey created => exact Accounts.createKey_indexed created indexed
  | deleteKey account keyId => exact Accounts.deleteKey_indexed account keyId indexed
  | update intent updated => exact Accounts.updateBucket_indexed updated indexed

theorem Write.keepsBuckets (write : Write used before after)
    (indexed : before.accounts.Indexed) (distinct : after.accounts.IdsDistinct) :
    before.accounts.KeepsBuckets after.accounts := by
  cases write with
  | createBucket created => exact Accounts.createBucket_keepsBuckets created indexed distinct
  | createKey created => exact .of_same (Accounts.bucket?_createKey created)
  | deleteKey account keyId =>
      exact .of_same (Accounts.bucket?_deleteKey before.accounts account keyId)
  | update intent updated => exact Accounts.updateBucket_keepsBuckets updated

theorem writes_indexed (writes : Writes used before after) (indexed : before.accounts.Indexed)
    (distinct : after.accounts.IdsDistinct) :
    after.accounts.Indexed ∧ before.accounts.KeepsBuckets after.accounts := by
  induction writes with
  | refl => exact ⟨indexed, .refl _⟩
  | tail earlier write induction =>
      have reached := induction (write.continued.ids.idsDistinct distinct)
      exact ⟨write.indexed reached.1 distinct,
        reached.2.trans (write.keepsBuckets reached.1 distinct)⟩

/-! ## Only creation gives names -/

theorem bucketIds_updateBucket {accounts after : Accounts} {owner bucketId : String}
    {revision : UInt64} {settings : ReplicationSettings} {result : Except Error Bucket}
    (updated : accounts.updateBucket owner bucketId revision settings = (result, after))
    (account : String) : (after.account account).bucketIds = (accounts.account account).bucketIds := by
  rcases result with error | bucket
  · rw [Accounts.updateBucket_error updated]
  · rcases Accounts.updateBucket_ok updated with ⟨-, -, -, -, -, changes⟩
    exact changes.view_eq rfl account

theorem bucketIds_addsKey {accounts after : Accounts} (adds : accounts.AddsKey after)
    (account : String) : (after.account account).bucketIds = (accounts.account account).bucketIds :=
  adds.view_eq (fun _ _ => rfl) account

theorem bucketIds_setupSource (chronicle : Chronicle) (settings : SetupSettings)
    (source destination : Handle) (wished : NewRule) (account : String) :
    ((chronicle.setupSource settings source destination wished).2.accounts.account
        account).bucketIds = (chronicle.accounts.account account).bucketIds := by
  rw [setupSource, accounts_recorded]
  rcases result : (Setup.setupSource Accounts.gateway settings source destination wished).outcome
      chronicle.accounts with ⟨error | handle, after⟩
  · exact bucketIds_addsKey (Setup.setupSource_error result) account
  · rcases Setup.setupSource_ok result with ⟨key, between, chosen, updated, -⟩
    exact (bucketIds_updateBucket updated account).trans
      (bucketIds_addsKey (Setup.sourceKey_addsKey chosen) account)

theorem bucketIds_setupDestination (chronicle : Chronicle) (settings : SetupSettings)
    (sourceKeyId : String) (destination : Handle) (account : String) :
    ((chronicle.setupDestination settings sourceKeyId destination).2.accounts.account
        account).bucketIds = (chronicle.accounts.account account).bucketIds := by
  rw [setupDestination, accounts_recorded]
  rcases result : (Setup.setupDestination Accounts.gateway settings sourceKeyId
      destination).outcome chronicle.accounts with ⟨error | handle, after⟩
  · exact bucketIds_addsKey (Setup.setupDestination_error result) account
  · rcases Setup.setupDestination_ok result with ⟨deleted, key, between, chosen, updated, -⟩
    exact (bucketIds_updateBucket updated account).trans
      (bucketIds_addsKey (Setup.destinationKey_addsKey chosen) account)

theorem bucketIds_recorded_update (chronicle : Chronicle) (origin : Origin)
    (owner bucketId : String) (revision : UInt64) (settings : ReplicationSettings)
    (account : String) :
    ((chronicle.recorded origin (.onAccount owner (chronicle.accounts.updateBucket owner bucketId
        revision settings))).2.accounts.account account).bucketIds =
      (chronicle.accounts.account account).bucketIds := by
  rw [accounts_recorded]
  rcases updated : chronicle.accounts.updateBucket owner bucketId revision settings with
    ⟨error | bucket, after⟩ <;> exact bucketIds_updateBucket updated account

theorem bucketIds_carryOut (chronicle : Chronicle) (request : Request) (account : String)
    (different : ∀ owner name, request ≠ .createBucket owner name) :
    ((chronicle.carryOut request).2.accounts.account account).bucketIds =
      (chronicle.accounts.account account).bucketIds := by
  cases request with
  | createBucket owner name => exact absurd rfl (different owner name)
  | fetch owner name => rw [accounts_fetch]
  | findBucket owner bucketId => rw [accounts_findBucket]
  | createKey owner request =>
      exact bucketIds_addsKey (chronicle.accounts.createKey_addsKey owner request) account
  | deleteKey owner keyId =>
      exact (Accounts.deleteKey_changes chronicle.accounts owner keyId).view_eq rfl account
  | update owner bucketId revision settings =>
      exact chronicle.bucketIds_recorded_update _ owner bucketId revision settings account
  | setupSource settings source destination wished =>
      exact chronicle.bucketIds_setupSource settings source destination wished account
  | setupDestination settings sourceKeyId destination =>
      exact chronicle.bucketIds_setupDestination settings sourceKeyId destination account
  | setupBoth settings source destination wished =>
      have sourceSide := chronicle.bucketIds_setupSource settings source destination wished account
      rw [carryOut, setupBoth_after]
      split
      · exact (bucketIds_setupDestination _ settings _ destination account).trans sourceSide
      · exact sourceSide
  | storeRule settings source destination wished keyId =>
      rw [carryOut, (Handle.update_yields source _ _ chronicle.accounts).outcome_eq]
      exact chronicle.bucketIds_recorded_update _ _ _ _ _ account
  | storeMapping destination sourceKeyId destinationKeyId =>
      rw [carryOut, (Handle.update_yields destination _ _ chronicle.accounts).outcome_eq]
      exact chronicle.bucketIds_recorded_update _ _ _ _ _ account

end Chronicle

namespace Session

def Creates (session : Session) (requests : List Request) (account name : String)
    (bucket : Bucket) : Prop :=
  ∃ earlier later, requests = earlier ++ .createBucket account name :: later ∧
    ((session.run earlier).accounts.createBucket account name).1 = .ok bucket

theorem creates_nil (session : Session) (account name : String) (bucket : Bucket) :
    ¬ session.Creates [] account name bucket := by
  rintro ⟨earlier, later, same, -⟩
  exact absurd same (by simp)

theorem creates_cons (session : Session) (request : Request) (rest : List Request)
    (account name : String) (bucket : Bucket) :
    session.Creates (request :: rest) account name bucket ↔
      (request = .createBucket account name ∧
        (session.accounts.createBucket account name).1 = .ok bucket) ∨
      (session.step request).Creates rest account name bucket := by
  constructor
  · rintro ⟨earlier, later, same, created⟩
    cases earlier with
    | nil =>
        cases same
        exact .inl ⟨rfl, created⟩
    | cons first others =>
        cases same
        exact .inr ⟨others, later, rfl, created⟩
  · rintro (⟨rfl, created⟩ | ⟨earlier, later, rfl, created⟩)
    · exact ⟨[], rest, rfl, created⟩
    · exact ⟨request :: earlier, later, rfl, created⟩

theorem mem_bucketIds_step (session : Session) (request : Request) (account name id : String) :
    (name, id) ∈ ((session.step request).accounts.account account).bucketIds ↔
      (name, id) ∈ (session.accounts.account account).bucketIds ∨
      (request = .createBucket account name ∧
        ∃ bucket, (session.accounts.createBucket account name).1 = .ok bucket ∧
          bucket.id = id) := by
  by_cases creation : ∃ owner bucketName, request = .createBucket owner bucketName
  · rcases creation with ⟨owner, bucketName, rfl⟩
    have reached : (session.step (.createBucket owner bucketName)).accounts =
        (session.accounts.createBucket owner bucketName).2 :=
      session.chronicle.accounts_createBucket owner bucketName
    rw [reached]
    rcases created : session.accounts.createBucket owner bucketName with ⟨error | bucket, after⟩
    · rw [Accounts.createBucket_error created]
      grind
    · rw [Accounts.bucketIds_createBucket created]
      grind
  · have same := session.chronicle.bucketIds_carryOut request account
      fun owner bucketName isCreation => creation ⟨owner, bucketName, isCreation⟩
    have noCreation : request ≠ .createBucket account name := fun isCreation =>
      creation ⟨account, name, isCreation⟩
    rw [accounts, Session.step, same]
    simp [noCreation, accounts]

theorem mem_bucketIds_run (session : Session) (requests : List Request)
    (account name id : String) :
    (name, id) ∈ ((session.run requests).accounts.account account).bucketIds ↔
      (name, id) ∈ (session.accounts.account account).bucketIds ∨
      ∃ bucket, session.Creates requests account name bucket ∧ bucket.id = id := by
  induction requests generalizing session with
  | nil => simp [run, creates_nil]
  | cons request rest induction =>
      rw [run, induction, mem_bucketIds_step]
      simp only [creates_cons]
      grind

/-! ## In every session -/

theorem run_indexed {session : Session} (indexed : session.accounts.Indexed)
    (requests : List Request) (distinct : (session.run requests).accounts.IdsDistinct) :
    (session.run requests).accounts.Indexed ∧
      session.accounts.KeepsBuckets (session.run requests).accounts := by
  induction requests generalizing session with
  | nil => exact ⟨indexed, .refl _⟩
  | cons request rest induction =>
      have between : (session.step request).accounts.IdsDistinct :=
        (run_continued (session.step request) rest).ids.idsDistinct distinct
      have moved : (session.step request).accounts.Indexed ∧
          session.accounts.KeepsBuckets (session.step request).accounts :=
        Chronicle.writes_indexed (session.chronicle.carryOut_moves request).writes indexed between
      have reached := induction moved.1 distinct
      exact ⟨reached.1, moved.2.trans reached.2⟩

theorem indexed_run_start {ids : List String} {requests : List Request}
    (distinct : ((start ids).run requests).accounts.IdsDistinct) :
    ((start ids).run requests).accounts.Indexed := by
  have indexed : (start ids).accounts.Indexed := Accounts.indexed_start ids
  exact (run_indexed indexed requests distinct).1

theorem lookup_run_start {ids : List String} {requests : List Request}
    (distinct : ((start ids).run requests).accounts.IdsDistinct) (account name id : String) :
    (((start ids).run requests).accounts.account account).bucketIds.lookup name = some id ↔
      ∃ bucket, (start ids).Creates requests account name bucket ∧ bucket.id = id := by
  have indexed := indexed_run_start distinct account
  have unnamed : (name, id) ∉ ((start ids).accounts.account account).bucketIds :=
    List.not_mem_nil
  rw [← indexed.mem_bucketIds_iff, mem_bucketIds_run, or_iff_right unnamed]

section

variable {ids : List String} {requests : List Request}
  (distinct : ((start ids).run requests).accounts.IdsDistinct)

include distinct

theorem named_run_start (account name id : String) :
    (((start ids).run requests).accounts.account account).bucketIds.lookup name = some id ↔
      ∃ bucket, ((start ids).run requests).accounts.bucket? account id = some bucket ∧
        bucket.name = name :=
  (indexed_run_start distinct account).lookup_eq_some_iff (distinct account).1 name id

theorem found_of_creates {account name : String} {created : Bucket}
    (creates : (start ids).Creates requests account name created) :
    ∃ bucket, ((start ids).run requests).accounts.bucket? account created.id = some bucket ∧
      (((start ids).run requests).accounts.account account).getBucketByName name =
        .ok bucket := by
  have leads := (lookup_run_start distinct account name created.id).2 ⟨created, creates, rfl⟩
  rcases (named_run_start distinct account name created.id).1 leads with ⟨bucket, here, -⟩
  exact ⟨bucket, here, (Account.getBucketByName_eq_ok_iff _ name bucket).2
    ⟨created.id, leads, here⟩⟩

theorem found_iff_created (account name : String) :
    (∃ bucket, (((start ids).run requests).accounts.account account).getBucketByName name =
        .ok bucket) ↔
      ∃ created, (start ids).Creates requests account name created := by
  constructor
  · rintro ⟨bucket, found⟩
    rcases (Account.getBucketByName_eq_ok_iff _ name bucket).1 found with ⟨id, leads, -⟩
    rcases (lookup_run_start distinct account name id).1 leads with ⟨created, creates, -⟩
    exact ⟨created, creates⟩
  · rintro ⟨created, creates⟩
    rcases found_of_creates distinct creates with ⟨bucket, -, found⟩
    exact ⟨bucket, found⟩

theorem createBucket_of_created {account name : String} {created : Bucket}
    (creates : (start ids).Creates requests account name created) :
    ((start ids).run requests).accounts.createBucket account name =
      (.error (.backend .badRequest "bucket name is already in use" (some name)),
        ((start ids).run requests).accounts) := by
  rw [Accounts.createBucket_eq,
    (lookup_run_start distinct account name created.id).2 ⟨created, creates, rfl⟩]

theorem createBucket_of_uncreated {account name : String}
    (uncreated : ∀ created, ¬ (start ids).Creates requests account name created) :
    ∃ bucket, (((start ids).run requests).accounts.createBucket account name).1 =
      .ok bucket := by
  rw [Accounts.createBucket_eq]
  split
  · rename_i id leads
    rcases (lookup_run_start distinct account name id).1 leads with ⟨created, creates, -⟩
    exact absurd creates (uncreated created)
  · exact ⟨_, rfl⟩

end

/-- After any requests whatever, the ids by name and the records agree, and each
record and each key is the one with its id. Buckets stay, with their ids and names;
so a bucket is found by name exactly if it was created, and then it is the one with
the id of that creation; and a name can be used for one creation only. -/
theorem names_lead_to_buckets (ids : List String) (requests : List Request)
    (distinct : ((start ids).run requests).accounts.IdsDistinct) :
    let session := (start ids).run requests
    (∀ account name id, (session.accounts.account account).bucketIds.lookup name = some id ↔
      ∃ bucket, session.accounts.bucket? account id = some bucket ∧ bucket.name = name) ∧
    (∀ account, ∀ bucket ∈ (session.accounts.account account).buckets,
      session.accounts.bucket? account bucket.id = some bucket) ∧
    (∀ account, ∀ key ∈ (session.accounts.account account).keys,
      session.accounts.key? account key.id = some key) ∧
    (∀ account id other bucket otherBucket,
      session.accounts.bucket? account id = some bucket →
      session.accounts.bucket? account other = some otherBucket →
      bucket.name = otherBucket.name → id = other) ∧
    (∀ later, (session.run later).accounts.IdsDistinct → ∀ account id bucket,
      session.accounts.bucket? account id = some bucket →
      ∃ current, (session.run later).accounts.bucket? account id = some current ∧
        current.id = bucket.id ∧ current.name = bucket.name) ∧
    (∀ account name,
      (∃ bucket, (session.accounts.account account).getBucketByName name = .ok bucket) ↔
        ∃ created, (start ids).Creates requests account name created) ∧
    (∀ account name created, (start ids).Creates requests account name created →
      (∃ bucket, session.accounts.bucket? account created.id = some bucket ∧
        (session.accounts.account account).getBucketByName name = .ok bucket) ∧
      session.accounts.createBucket account name =
        (.error (.backend .badRequest "bucket name is already in use" (some name)),
          session.accounts)) ∧
    (∀ account name, (∀ created, ¬ (start ids).Creates requests account name created) →
      ∃ bucket, (session.accounts.createBucket account name).1 = .ok bucket) := by
  intro session
  have indexed : session.accounts.Indexed := indexed_run_start distinct
  refine ⟨named_run_start distinct, ?_, ?_, ?_, ?_, found_iff_created distinct, ?_, ?_⟩
  · intro account bucket held
    have unrepeated := (distinct account).1
    rw [(indexed account).created] at unrepeated
    exact Account.find?_of_mem unrepeated held
  · intro account key held
    exact Account.find?_of_mem (indexed account).keys held
  · intro account id other bucket otherBucket first second sameName
    have one := (named_run_start distinct account otherBucket.name id).2 ⟨bucket, first, sameName⟩
    rw [(named_run_start distinct account otherBucket.name other).2
      ⟨otherBucket, second, rfl⟩] at one
    exact (Option.some.inj one).symm
  · intro later distinctLater account id bucket here
    rcases (run_indexed indexed later distinctLater).2 account id bucket here with
      ⟨current, still, sameName⟩
    refine ⟨current, still, ?_, sameName⟩
    rw [Accounts.bucket?_id still, Accounts.bucket?_id here]
  · intro account name created creates
    exact ⟨found_of_creates distinct creates, createBucket_of_created distinct creates⟩
  · intro account name uncreated
    exact createBucket_of_uncreated distinct uncreated

def namingRequests : List Request :=
  tourRequests ++ [.createBucket "west" "photos", .createBucket "east" "photos",
    .deleteKey "west" "key-1"]

theorem names_lead_to_buckets_namingRequests :
    let session := (start tourIds).run namingRequests
    session.accounts.IdsDistinct ∧
      (∃ bucket, (session.accounts.account "west").getBucketByName "photos" = .ok bucket ∧
        session.accounts.bucket? "west" "bucket-1" = some bucket ∧
        bucket.rules = [.new "backup" "bucket-2"]) ∧
      session.accounts.createBucket "west" "photos" =
        (.error (.backend .badRequest "bucket name is already in use" (some "photos")),
          session.accounts) := by
  intro session
  have distinct : session.accounts.IdsDistinct := Accounts.idsDistinct_of_entries (by decide)
  have creates : (start tourIds).Creates namingRequests "west" "photos"
      (.new "bucket-1" "photos") := ⟨[], namingRequests.tail, rfl, rfl⟩
  rcases names_lead_to_buckets tourIds namingRequests distinct with ⟨-, -, -, -, -, -, taken, -⟩
  rcases taken "west" "photos" _ creates with ⟨⟨bucket, byId, byName⟩, refused⟩
  refine ⟨distinct, ⟨bucket, byName, byId, ?_⟩, refused⟩
  have rules : (session.accounts.bucket? "west" "bucket-1").map Bucket.rules =
      some [.new "backup" "bucket-2"] := by decide
  have stored : session.accounts.bucket? "west" "bucket-1" = some bucket := byId
  rw [stored] at rules
  exact Option.some.inj rules

end Session

end BucketReplication
