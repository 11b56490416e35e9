import BucketReplication.Proofs.History.Session
import BucketReplication.Proofs.Setup.FitKey

/-! # Rules lead to their destinations

A rule works if its source names a key, its destination exists and maps this key,
and both keys are there and fit. While keys are not deleted, settings are stored by
setups only, and no setup stops between its two sides, every rule that was ever
added works. The source key never changes once it is set, and what a destination
maps stays mapped, so later setups do no harm to earlier rules. -/

namespace BucketReplication

/-- The request sets up links as a whole: if the source side of a setup of both
sides is stored, so is the destination side. -/
def Request.linksWhole (accounts : Accounts) : Request → Bool
  | .createBucket .. => true
  | .fetch .. => true
  | .findBucket .. => true
  | .createKey .. => true
  | .setupDestination .. => true
  | .setupBoth settings source destination wished =>
    !((Setup.setupSource Accounts.gateway settings source destination wished).outcome
        accounts).1.isOk ||
      ((Setup.setupBoth Accounts.gateway settings source destination wished).outcome
        accounts).1.isOk
  | _ => false

namespace Accounts

/-- The destination of a rule exists and maps a source key. -/
def Leads (accounts : Accounts) (keyId : String) (rule : Rule) : Prop :=
  ∃ account bucket, accounts.bucket? account rule.destinationBucketId = some bucket ∧
    (KeyMapping.lookup bucket.keyMapping keyId).isSome = true

/-- The keys of all buckets are there, and all rules lead to their destinations, save
those that still have to. -/
structure Linked (accounts : Accounts) (pending : String → Rule → Prop) : Prop where
  equipped : ∀ {account id : String} {bucket : Bucket},
    accounts.bucket? account id = some bucket → accounts.Equips account bucket
  leads : ∀ {account id keyId : String} {bucket : Bucket},
    accounts.bucket? account id = some bucket → bucket.sourceKeyId = some keyId →
    ∀ rule ∈ bucket.rules, pending keyId rule ∨ accounts.Leads keyId rule

variable {accounts after : Accounts} {pending : String → Rule → Prop} {account : String}
  {bucket : Bucket}

namespace Linked

theorem start (ids : List String) (pending : String → Rule → Prop) :
    Linked (.start ids) pending where
  equipped found := by cases found
  leads found := by cases found

theorem rekeyed (linked : accounts.Linked pending) (keeps : accounts.KeepsKeys after)
    (same : ∀ other id, after.bucket? other id = accounts.bucket? other id) :
    after.Linked pending := by
  constructor
  · intro other id stored found
    rw [same] at found
    exact (linked.equipped found).kept keeps
  · intro other id keyId stored found names rule listed
    rw [same] at found
    rcases linked.leads found names rule listed with waits | ⟨owner, destination, present, mapped⟩
    · exact .inl waits
    · exact .inr ⟨owner, destination, (same _ _).trans present, mapped⟩

theorem placed {later : String → Rule → Prop} (linked : accounts.Linked pending)
    (keeps : accounts.KeepsKeys after)
    (puts : ∀ other id, after.bucket? other id =
      if account = other ∧ bucket.id = id then some bucket else accounts.bucket? other id)
    (equips : after.Equips account bucket)
    (mapsMore : ∀ stored, accounts.bucket? account bucket.id = some stored → ∀ keyId,
      (KeyMapping.lookup stored.keyMapping keyId).isSome = true →
      (KeyMapping.lookup bucket.keyMapping keyId).isSome = true)
    (waits : ∀ keyId rule, pending keyId rule → later keyId rule ∨ after.Leads keyId rule)
    (own : ∀ keyId, bucket.sourceKeyId = some keyId → ∀ rule ∈ bucket.rules,
      later keyId rule ∨ after.Leads keyId rule ∨ accounts.Leads keyId rule) :
    after.Linked later := by
  have leadsOn (keyId : String) (rule : Rule) (before : accounts.Leads keyId rule) :
      after.Leads keyId rule := by
    rcases before with ⟨owner, destination, present, mapped⟩
    by_cases here : account = owner ∧ bucket.id = rule.destinationBucketId
    · rcases here with ⟨rfl, sameId⟩
      rw [← sameId] at present
      refine ⟨account, bucket, ?_, mapsMore destination present keyId mapped⟩
      rw [puts, if_pos ⟨rfl, sameId⟩]
    · refine ⟨owner, destination, ?_, mapped⟩
      rw [puts, if_neg here]
      exact present
  constructor
  · intro other id stored found
    rw [puts] at found
    split at found
    · rename_i here
      rcases here with ⟨rfl, rfl⟩
      cases found
      exact equips
    · exact (linked.equipped found).kept keeps
  · intro other id keyId stored found names rule listed
    rw [puts] at found
    split at found
    · cases found
      rcases own keyId names rule listed with waiting | leads | before
      · exact .inl waiting
      · exact .inr leads
      · exact .inr (leadsOn keyId rule before)
    · rcases linked.leads found names rule listed with waiting | before
      · exact waits keyId rule waiting
      · exact .inr (leadsOn keyId rule before)

theorem updated {later : String → Rule → Prop} {stored : Bucket} {revision : UInt64}
    {settings : ReplicationSettings} (linked : accounts.Linked pending)
    (updated : accounts.updateBucket account stored.id revision settings = (.ok bucket, after))
    (found : accounts.bucket? account stored.id = some stored)
    (equips : accounts.Equips account bucket)
    (mapsMore : ∀ keyId, (KeyMapping.lookup stored.keyMapping keyId).isSome = true →
      (KeyMapping.lookup bucket.keyMapping keyId).isSome = true)
    (waits : ∀ keyId rule, pending keyId rule → later keyId rule ∨ after.Leads keyId rule)
    (own : ∀ keyId, bucket.sourceKeyId = some keyId → ∀ rule ∈ bucket.rules,
      later keyId rule ∨ after.Leads keyId rule ∨ accounts.Leads keyId rule) :
    after.Linked later := by
  have keeps := updateBucket_keepsKeys updated
  refine linked.placed keeps (bucket?_updateBucket updated) (equips.kept keeps) ?_ waits own
  intro before foundAgain
  rw [updateBucket_id updated, found] at foundAgain
  cases foundAgain
  exact mapsMore

theorem addsKey (linked : accounts.Linked pending) (adds : accounts.AddsKey after)
    (listed : accounts.Listed) (distinct : after.IdsDistinct) : after.Linked pending :=
  linked.rekeyed (adds.keepsKeys listed distinct) adds.bucket?

theorem createBucket {name : String} (linked : accounts.Linked pending)
    (created : accounts.createBucket account name = (.ok bucket, after))
    (listed : accounts.Listed) (distinct : after.IdsDistinct) : after.Linked pending := by
  have fresh := createBucket_fresh created listed distinct
  have keeps : accounts.KeepsKeys after := fun other id key found =>
    (key?_createBucket created other id).trans found
  have puts := bucket?_createBucket created
  rw [(createBucket_ok created).1] at fresh puts
  refine linked.placed keeps puts (.new after account _ _) ?_ (fun _ _ waits => .inl waits) nofun
  intro stored found
  rw [fresh] at found
  cases found

end Linked

end Accounts

namespace Chronicle

variable {chronicle : Chronicle} {settings : SetupSettings} {source destination : Handle}
  {wished : NewRule} {after : Accounts} {handle : Handle} {count : Nat}
  {pending : String → Rule → Prop}

theorem shown_of_updated {between : Accounts} {stores : ReplicationSettings} {bucket : Bucket}
    (coherent : chronicle.Coherent) (orderly : chronicle.Orderly)
    (known : chronicle.Known handle count) (adds : chronicle.accounts.AddsKey between)
    (updated : between.updateBucket handle.account handle.bucket.id handle.bucket.revision stores =
      (.ok bucket, after)) :
    chronicle.accounts.bucket? handle.account handle.bucket.id = some handle.bucket ∧
      between.bucket? handle.account handle.bucket.id = some handle.bucket ∧
      bucket = handle.bucket.updated stores := by
  rcases Accounts.updateBucket_ok updated with ⟨_, stored, found, sameRevision, raised, _⟩
  have foundBefore := found
  rw [adds.bucket?] at foundBefore
  have same := coherent.eq_stored orderly known foundBefore sameRevision
  rw [same] at found foundBefore raised
  exact ⟨foundBefore, found, raised⟩

theorem setupSource_linked (coherent : chronicle.Coherent) (orderly : chronicle.Orderly)
    (known : chronicle.Known source count) (linked : chronicle.accounts.Linked fun _ _ => False)
    (succeeded : (Setup.setupSource Accounts.gateway settings source destination wished).outcome
      chronicle.accounts = (.ok handle, after)) (distinct : after.IdsDistinct) :
    ∃ keyId, handle.bucket.sourceKeyId = some keyId ∧
      after.Linked fun named rule => named = keyId ∧
        rule = Setup.ruleToAdd settings source.bucket destination.bucket wished := by
  rcases Setup.setupSource_ok succeeded with ⟨key, between, chosen, updated, _⟩
  have adds := Setup.sourceKey_addsKey chosen
  have distinctBetween := (Accounts.updateBucket_grows updated).idsDistinct distinct
  have linkedBetween := linked.addsKey adds coherent.listed distinctBetween
  rcases shown_of_updated coherent orderly known adds updated with ⟨foundBefore, found, stores⟩
  have equips := linked.equipped foundBefore
  rcases Setup.sourceKey_equips chosen equips with ⟨holds, keepsName⟩
  refine ⟨key.id, by rw [stores]; rfl, ?_⟩
  apply linkedBetween.updated updated found
  · rw [stores]
    exact (linkedBetween.equipped found).withRule _ holds
  · intro keyId mapped
    rw [stores]
    exact mapped
  · exact fun _ _ waits => waits.elim
  · intro keyId names rule listed
    rw [stores] at names listed
    cases names
    rcases List.mem_append.1 listed with old | new
    · -- The source had rules, so it named a key, and this key is still in use.
      rcases equips.named (List.ne_nil_of_mem old) with ⟨named, names⟩
      rw [keepsName named names]
      rcases linkedBetween.leads found names rule old with waits | leads
      · exact waits.elim
      · exact .inr (.inr leads)
    · exact .inl ⟨rfl, List.mem_singleton.1 new⟩

theorem setupDestination_linked {sourceKeyId : String} (coherent : chronicle.Coherent)
    (orderly : chronicle.Orderly) (known : chronicle.Known destination count)
    (linked : chronicle.accounts.Linked pending)
    (succeeded : (Setup.setupDestination Accounts.gateway settings sourceKeyId
      destination).outcome chronicle.accounts = (.ok handle, after))
    (distinct : after.IdsDistinct)
    (resolved : ∀ named rule, pending named rule →
      named = sourceKeyId ∧ rule.destinationBucketId = destination.bucket.id) :
    after.Linked fun _ _ => False := by
  rcases Setup.setupDestination_ok succeeded with ⟨deleted, key, between, chosen, updated, _⟩
  have adds := Setup.destinationKey_addsKey chosen
  have distinctBetween := (Accounts.updateBucket_grows updated).idsDistinct distinct
  have linkedBetween := linked.addsKey adds coherent.listed distinctBetween
  rcases shown_of_updated coherent orderly known adds updated with ⟨foundBefore, found, stores⟩
  have holds := Setup.destinationKey_equips chosen (linked.equipped foundBefore)
  have sameId : handle.bucket.id = destination.bucket.id := Accounts.updateBucket_id updated
  have maps : (KeyMapping.lookup handle.bucket.keyMapping sourceKeyId).isSome = true := by
    rw [stores, Setup.keyMapping_settingsWithMapping, KeyMapping.lookup_map, if_pos rfl]
    rfl
  have resolves (named : String) (rule : Rule) (waits : pending named rule) :
      after.Leads named rule := by
    rcases resolved named rule waits with ⟨rfl, leadsHere⟩
    refine ⟨destination.account, handle.bucket, ?_, maps⟩
    rw [leadsHere, ← sameId]
    exact current_updateBucket updated
  apply linkedBetween.updated updated found
  · rw [stores]
    exact (linkedBetween.equipped found).withMapping sourceKeyId holds
  · intro keyId mapped
    rw [stores, Setup.keyMapping_settingsWithMapping]
    exact KeyMapping.isSome_lookup_map mapped
  · exact fun named rule waits => .inr (resolves named rule waits)
  · intro named names rule listed
    rw [stores, Setup.sourceKeyId_settingsWithMapping] at names
    rw [stores, Setup.rules_settingsWithMapping] at listed
    rcases linkedBetween.leads found names rule listed with waits | leads
    · exact .inr (.inl (resolves named rule waits))
    · exact .inr (.inr leads)

theorem setupBoth_linked {answer : Handle × Handle} (coherent : chronicle.Coherent)
    (knownSource : ∃ count, chronicle.Known source count)
    (knownDestination : ∃ count, chronicle.Known destination count)
    (linked : chronicle.accounts.Linked fun _ _ => False)
    (succeeded : (Setup.setupBoth Accounts.gateway settings source destination wished).outcome
      chronicle.accounts = (.ok answer, after))
    (orderly : (chronicle.setupBoth settings source destination wished).2.Orderly) :
    after.Linked fun _ _ => False := by
  rcases Setup.setupBoth_ok succeeded with ⟨keyId, between, sourceSide, names, destinationSide⟩
  let used : Handle → Prop := fun handle => handle = source ∨ handle = destination
  have sourceMoves : Moves used chronicle _ :=
    chronicle.setupSource_moves settings destination wished (.inl rfl)
  -- Between the two sides there is a chronicle that still knows the destination.
  let reached : Chronicle := (chronicle.setupSource settings source destination wished).2
  have destinationMoves : Moves used reached _ :=
    reached.setupDestination_moves settings keyId (.inr rfl)
  have whole : (chronicle.setupBoth settings source destination wished).2 =
      (reached.setupDestination settings keyId destination).2 := by
    rw [setupBoth_after, sourceSide]
    dsimp only
    rw [names]
    rfl
  rw [whole] at orderly
  have reachedAccounts : reached.accounts = between := by
    simp only [reached, setupSource, sourceSide, recorded]
  have reachedAfter : (reached.setupDestination settings keyId destination).2.accounts = after := by
    rw [setupDestination, reachedAccounts, destinationSide, recorded]
  have distinct := orderly.distinct
  rw [reachedAfter] at distinct
  have known : ∀ handle, used handle → ∃ count, chronicle.Known handle count := by
    rintro handle (rfl | rfl)
    · exact knownSource
    · exact knownDestination
  have orderlyReached := (writes_continued destinationMoves.writes).orderly orderly
  have continued := writes_continued sourceMoves.writes
  have coherentReached := writes_coherent sourceMoves.writes coherent orderlyReached known
  have distinctReached := orderlyReached.distinct
  rw [reachedAccounts] at distinctReached
  rcases knownSource with ⟨sourceCount, knownSource⟩
  rcases knownDestination with ⟨destinationCount, knownDestination⟩
  rcases setupSource_linked coherent (continued.orderly orderlyReached) knownSource linked
    sourceSide distinctReached with ⟨named, alsoNames, linkedReached⟩
  rw [← reachedAccounts] at destinationSide linkedReached
  refine setupDestination_linked coherentReached orderlyReached
    (continued.known knownDestination) linkedReached destinationSide distinct ?_
  rintro other rule ⟨rfl, rfl⟩
  exact ⟨Option.some.inj (alsoNames.symm.trans names), rfl⟩

end Chronicle

namespace Session

theorem step_linked {session : Session} {request : Request} (sound : session.Sound)
    (holds : session.Holds request) (whole : request.linksWhole session.accounts = true)
    (orderly : (session.step request).chronicle.Orderly)
    (linked : session.accounts.Linked fun _ _ => False) :
    (session.step request).accounts.Linked fun _ _ => False := by
  have listed := sound.coherent.listed
  have distinct := orderly.distinct
  have before := (step_continued session request).orderly orderly
  unfold accounts step at *
  cases request with
  | createBucket account name =>
      rw [Chronicle.accounts_createBucket] at distinct ⊢
      rcases created : session.chronicle.accounts.createBucket account name with
        ⟨error | bucket, after⟩
      · rw [Accounts.createBucket_error created]
        exact linked
      · rw [created] at distinct
        exact linked.createBucket created listed distinct
  | fetch account name =>
      rw [Chronicle.accounts_fetch]
      exact linked
  | findBucket account bucketId =>
      rw [Chronicle.accounts_findBucket]
      exact linked
  | createKey account request =>
      exact linked.addsKey (Accounts.createKey_addsKey _ account request) listed distinct
  | setupDestination settings sourceKeyId destination =>
      dsimp only [Chronicle.carryOut, Chronicle.setupDestination] at distinct ⊢
      rcases result : (Setup.setupDestination Accounts.gateway settings sourceKeyId
          destination).outcome session.chronicle.accounts with ⟨error | handle, after⟩
      · rw [result] at distinct
        exact linked.addsKey (Setup.setupDestination_error result) listed distinct
      · rw [result] at distinct
        rcases sound.known_handle (holds destination (by simp [Request.written])) with
          ⟨count, known⟩
        exact Chronicle.setupDestination_linked sound.coherent before known linked result distinct
          fun _ _ waits => waits.elim
  | setupBoth settings source destination wished =>
      have knownSource := sound.known_handle (holds source (by simp [Request.written]))
      have knownDestination := sound.known_handle (holds destination (by simp [Request.written]))
      rcases result : (Setup.setupBoth Accounts.gateway settings source destination
          wished).outcome session.chronicle.accounts with ⟨error | answer, after⟩
      · -- The source side cannot have been stored, so it is what failed.
        rcases sourceSide : (Setup.setupSource Accounts.gateway settings source destination
            wished).outcome session.chronicle.accounts with ⟨failure | handle, between⟩
        · have same : (session.chronicle.setupBoth settings source destination
              wished).2.accounts = between := by
            rw [Chronicle.setupBoth_after, Chronicle.setupSource, sourceSide]
            rfl
          dsimp only [Chronicle.carryOut] at distinct ⊢
          rw [same] at distinct ⊢
          exact linked.addsKey (Setup.setupSource_error sourceSide) listed distinct
        · rw [Request.linksWhole, sourceSide, result] at whole
          cases whole
      · have reached := Chronicle.setupBoth_linked sound.coherent knownSource knownDestination
          linked result orderly
        have same : (session.chronicle.setupBoth settings source destination wished).2.accounts =
            after := by
          rw [Chronicle.setupBoth, result]
        dsimp only [Chronicle.carryOut]
        rw [same]
        exact reached
  | _ => cases whole

theorem Reached.linked {session : Session}
    (reached : Reached (fun chronicle request => request.linksWhole chronicle.accounts = true)
      session)
    (orderly : session.chronicle.Orderly) : session.accounts.Linked fun _ _ => False := by
  apply reached.invariant (fun chronicle => chronicle.accounts.Linked fun _ _ => False) orderly
  · intro ids
    exact .start ids _
  · intro session request sound holds whole orderly linked
    exact step_linked sound holds whole orderly linked

/-- In any run in which links are set up as a whole, every rule of a bucket works:
the bucket names a key to read with, the destination of the rule exists and maps
this key to one to write with, and both keys are there, restricted to their
buckets but not to some of the files, with all capabilities that they need. -/
theorem rules_lead_to_destinations {session : Session}
    (reached : Reached (fun chronicle request => request.linksWhole chronicle.accounts = true)
      session)
    (distinct : session.accounts.IdsDistinct)
    (few : UpdatesBelow session.versions (UInt64.size - 1)) {account id : String} {source : Bucket}
    (found : session.accounts.bucket? account id = some source) {rule : Rule}
    (listed : rule ∈ source.rules) :
    ∃ sourceKeyId sourceKey,
      source.sourceKeyId = some sourceKeyId ∧
      session.accounts.key? account sourceKeyId = some sourceKey ∧
      sourceKey.bucketId = some source.id ∧
      sourceKey.isNarrowed = false ∧
      sourceKey.hasCapabilities sourceCapabilities = true ∧
      ∃ owner destination destinationKeyId destinationKey,
        session.accounts.bucket? owner rule.destinationBucketId = some destination ∧
        KeyMapping.lookup destination.keyMapping sourceKeyId = some destinationKeyId ∧
        session.accounts.key? owner destinationKeyId = some destinationKey ∧
        destinationKey.bucketId = some destination.id ∧
        destinationKey.isNarrowed = false ∧
        destinationKey.hasCapabilities destinationCapabilities = true := by
  have linked := reached.linked ⟨distinct, few⟩
  have equips := linked.equipped found
  rcases equips.named (List.ne_nil_of_mem listed) with ⟨sourceKeyId, names⟩
  rcases equips.source sourceKeyId names with ⟨sourceKey, keyFound, bound, fit⟩
  rcases linked.leads found names rule listed with waits | ⟨owner, destination, present, mapped⟩
  · exact waits.elim
  rcases Option.isSome_iff_exists.1 mapped with ⟨destinationKeyId, maps⟩
  rcases (linked.equipped present).mapped _ (KeyMapping.mem_items_of_lookup maps) with
    ⟨destinationKey, writerFound, writerBound, writerFit⟩
  rw [ApplicationKey.isFitForSource, Bool.and_eq_true, Bool.not_eq_true'] at fit
  rw [ApplicationKey.isFitForDestination, Bool.and_eq_true, Bool.not_eq_true'] at writerFit
  exact ⟨sourceKeyId, sourceKey, names, keyFound, bound, fit.1, fit.2, owner, destination,
    destinationKeyId, destinationKey, present, maps, writerFound, writerBound, writerFit.2,
    writerFit.1⟩

theorem rules_lead_to_destinations_tour :
    Reached (fun chronicle request => request.linksWhole chronicle.accounts = true) tour ∧
      tour.accounts.IdsDistinct ∧ UpdatesBelow tour.versions (UInt64.size - 1) ∧
      ∃ source, tour.accounts.bucket? "west" "bucket-1" = some source ∧
        .new "backup" "bucket-2" ∈ source.rules ∧
        ∃ owner destination, tour.accounts.bucket? owner "bucket-2" = some destination := by
  have reached : Reached
      (fun chronicle request => request.linksWhole chronicle.accounts = true) tour :=
    .run (.start tourIds) (by decide)
  have present : (tour.accounts.bucket? "west" "bucket-1").map Bucket.rules =
      some [.new "backup" "bucket-2"] := by
    decide
  rcases Option.map_eq_some_iff.1 present with ⟨source, found, rules⟩
  have listed : .new "backup" "bucket-2" ∈ source.rules := by
    rw [rules]
    exact List.mem_singleton_self _
  rcases rules_lead_to_destinations reached tour_distinct tour_few found listed with
    ⟨_, _, _, _, _, _, _, owner, destination, _, _, leads, _⟩
  exact ⟨reached, tour_distinct, tour_few, source, found, listed, owner, destination, leads⟩

end Session

end BucketReplication
