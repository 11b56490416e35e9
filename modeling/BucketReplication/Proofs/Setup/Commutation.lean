import BucketReplication.Proofs.Setup.Effect

/-! # Setups of different buckets

Two setups of single sides that go by handles of different buckets do not get in each
other's way, even on one account: neither reads what the other one writes. So it makes no
difference which of them comes first. -/

namespace BucketReplication

namespace Accounts

/-- The same buckets, names and keys are found on all accounts. -/
structure Agree (accounts others : Accounts) : Prop where
  buckets : ∀ account id, accounts.bucket? account id = others.bucket? account id
  names : ∀ account, (accounts.account account).bucketIds = (others.account account).bucketIds
  keys : ∀ account id, accounts.key? account id = others.key? account id

end Accounts

namespace Setup

inductive SideSetup where
  | ofSource (settings : SetupSettings) (source destination : Handle) (wished : NewRule)
  | ofDestination (settings : SetupSettings) (sourceKeyId : String) (destination : Handle)

namespace SideSetup

def procedure : SideSetup → Procedure Accounts Handle
  | .ofSource settings source destination wished =>
    setupSource Accounts.gateway settings source destination wished
  | .ofDestination settings sourceKeyId destination =>
    setupDestination Accounts.gateway settings sourceKeyId destination

def handle : SideSetup → Handle
  | .ofSource _ source _ _ => source
  | .ofDestination _ _ destination => destination

def keyIds : SideSetup → List String
  | .ofSource _ source _ _ => source.bucket.keyIds .source
  | .ofDestination _ _ destination => destination.bucket.keyIds .destination

def outcomeWith (setup : SideSetup) (id : String) (accounts : Accounts) :
    Outcome Accounts Handle :=
  setup.procedure.outcome { accounts with ids := { accounts.ids with given := [id] } }

def side : SideSetup → Side
  | .ofSource settings source destination wished => sourceSide settings source destination wished
  | .ofDestination settings sourceKeyId destination =>
    destinationSide settings sourceKeyId destination

def effectOn (setup : SideSetup) (id : String) (accounts : Accounts) : Effect :=
  setup.side.effect (accounts.key? setup.handle.account)
    (accounts.bucket? setup.handle.account setup.handle.bucket.id) id

theorem outcomeWith_reached (setup : SideSetup) (id : String) (accounts : Accounts) :
    (setup.effectOn id accounts).Reached setup.handle.account accounts
      (setup.outcomeWith id accounts) := by
  cases setup with
  | ofSource settings source destination wished =>
      rw [outcomeWith, procedure, sourceSide_outcome]
      have reached := (sourceSide settings source destination wished).outcome_reached
        { accounts with ids := { accounts.ids with given := [id] } }
      exact ⟨reached.answer, reached.keys, reached.buckets, reached.names⟩
  | ofDestination settings sourceKeyId destination =>
      rw [outcomeWith, procedure, destinationSide_outcome]
      have reached := (destinationSide settings sourceKeyId destination).outcome_reached
        { accounts with ids := { accounts.ids with given := [id] } }
      exact ⟨reached.answer, reached.keys, reached.buckets, reached.names⟩

variable {first second : SideSetup} {firstId secondId : String} {accounts : Accounts}

theorem keyIds_side (setup : SideSetup) : setup.side.keyIds = setup.keyIds := by
  cases setup <;> rfl

theorem stored?_id {setup : SideSetup} {id : String} {bucket : Bucket}
    (stored : (setup.effectOn id accounts).stored? = some bucket) :
    bucket.id = setup.handle.bucket.id := by
  rcases Side.stored?_effect stored with ⟨current, found, same⟩
  exact same.trans (Accounts.bucket?_id found)

/-- An operation has the same effect after another one that is about another bucket and
that creates no key it names. -/
theorem effectOn_after (buckets : first.handle.account ≠ second.handle.account ∨
      first.handle.bucket.id ≠ second.handle.bucket.id)
    (unnamed : firstId ∉ second.keyIds) :
    second.effectOn secondId (first.outcomeWith firstId accounts).2 =
      second.effectOn secondId accounts := by
  have reached := first.outcomeWith_reached firstId accounts
  have bucket : (first.outcomeWith firstId accounts).2.bucket? second.handle.account
      second.handle.bucket.id =
        accounts.bucket? second.handle.account second.handle.bucket.id := by
    rw [reached.buckets]
    cases stored : (first.effectOn firstId accounts).stored? with
    | none => rfl
    | some bucket =>
        have own := stored?_id stored
        rw [or_filter_some, if_neg]
        rintro ⟨sameAccount, sameId⟩
        rcases buckets with otherAccount | otherId
        · exact otherAccount sameAccount
        · exact otherId (own.symm.trans sameId)
  have keys : second.side.fitKey?
      ((first.outcomeWith firstId accounts).2.key? second.handle.account) =
        second.side.fitKey? (accounts.key? second.handle.account) := by
    apply Side.fitKey?_congr
    intro keyId named
    rw [reached.keys]
    cases created : (first.effectOn firstId accounts).created? with
    | none => rfl
    | some key =>
        rw [or_filter_some, if_neg]
        rintro ⟨-, sameId⟩
        rw [Side.created?_effect created] at sameId
        exact unnamed (sameId ▸ keyIds_side second ▸ named)
  rw [effectOn, effectOn, bucket, Side.effect.eq_def, Side.effect.eq_def, keys]

theorem or_left_comm_of_apart {α : Type} {one other before : Option α}
    (apart : one = none ∨ other = none) : one.or (other.or before) = other.or (one.or before) := by
  rcases apart with rfl | rfl <;> simp

theorem or_filter_comm {α : Type} {one other : Option α} {here there : α → Prop}
    [DecidablePred here] [DecidablePred there] (before : Option α)
    (apart : ∀ item second, one = some item → other = some second → here item → ¬ there second) :
    (one.filter fun item => here item).or ((other.filter fun item => there item).or before) =
      (other.filter fun item => there item).or
        ((one.filter fun item => here item).or before) := by
  apply or_left_comm_of_apart
  cases placed : one.filter fun item => here item with
  | none => exact .inl rfl
  | some item =>
      rcases Option.filter_eq_some_iff.1 placed with ⟨found, isHere⟩
      refine .inr (Option.filter_eq_none_iff.2 ?_)
      intro second foundSecond isThere
      exact apart item second found foundSecond (of_decide_eq_true isHere)
        (of_decide_eq_true isThere)

/-- Setups of different buckets can change places: each of them answers the same, and
all accounts end up the same. -/
theorem setups_commute (accounts : Accounts) (first second : SideSetup)
    (firstId secondId : String)
    (buckets : first.handle.account ≠ second.handle.account ∨
      first.handle.bucket.id ≠ second.handle.bucket.id)
    (ids : firstId ≠ secondId) (firstUnnamed : firstId ∉ second.keyIds)
    (secondUnnamed : secondId ∉ first.keyIds) :
    let firstAlone := first.outcomeWith firstId accounts
    let secondAlone := second.outcomeWith secondId accounts
    let secondAfter := second.outcomeWith secondId firstAlone.2
    let firstAfter := first.outcomeWith firstId secondAlone.2
    firstAfter.1 = firstAlone.1 ∧ secondAfter.1 = secondAlone.1 ∧
      secondAfter.2.Agree firstAfter.2 := by
  intro firstAlone secondAlone secondAfter firstAfter
  have firstReached : (first.effectOn firstId accounts).Reached first.handle.account accounts
      firstAlone := first.outcomeWith_reached firstId accounts
  have secondReached : (second.effectOn secondId accounts).Reached second.handle.account
      accounts secondAlone := second.outcomeWith_reached secondId accounts
  have secondLater : (second.effectOn secondId accounts).Reached second.handle.account
      firstAlone.2 secondAfter := by
    rw [← effectOn_after buckets firstUnnamed]
    exact second.outcomeWith_reached secondId firstAlone.2
  have firstLater : (first.effectOn firstId accounts).Reached first.handle.account
      secondAlone.2 firstAfter := by
    rw [← effectOn_after (buckets.imp Ne.symm Ne.symm) secondUnnamed]
    exact first.outcomeWith_reached firstId secondAlone.2
  refine ⟨firstLater.answer.trans firstReached.answer.symm,
    secondLater.answer.trans secondReached.answer.symm, ?_, ?_, ?_⟩
  · intro account id
    rw [secondLater.buckets, firstReached.buckets, firstLater.buckets, secondReached.buckets]
    apply or_filter_comm
    rintro bucket other stored storedOther ⟨atSecond, rfl⟩ ⟨atFirst, sameId⟩
    rcases buckets with otherAccount | otherId
    · exact otherAccount (atFirst.trans atSecond.symm)
    · exact otherId ((stored?_id storedOther).symm.trans (sameId.trans (stored?_id stored)))
  · intro account
    rw [secondLater.names, firstReached.names, firstLater.names, secondReached.names]
  · intro account id
    rw [secondLater.keys, firstReached.keys, firstLater.keys, secondReached.keys]
    apply or_filter_comm
    rintro key other created createdOther ⟨-, rfl⟩ ⟨-, sameId⟩
    rw [Side.created?_effect created, Side.created?_effect createdOther] at sameId
    exact ids sameId

def neighbours : Accounts :=
  let first := ((Accounts.start ["photos-id", "backup-id"]).createBucket "west" "photos").2
  (first.createBucket "west" "backup").2

def sourceOfNeighbours : SideSetup :=
  .ofSource .default ⟨"west", .new "photos-id" "photos"⟩ ⟨"west", .new "backup-id" "backup"⟩
    .derived

def destinationOfNeighbours : SideSetup :=
  .ofDestination .default "other-key" ⟨"west", .new "backup-id" "backup"⟩

theorem setups_commute_neighbours :
    let firstAlone := sourceOfNeighbours.outcomeWith "key-1" neighbours
    let secondAlone := destinationOfNeighbours.outcomeWith "key-2" neighbours
    let secondAfter := destinationOfNeighbours.outcomeWith "key-2" firstAlone.2
    let firstAfter := sourceOfNeighbours.outcomeWith "key-1" secondAlone.2
    firstAlone.1.isOk = true ∧ secondAlone.1.isOk = true ∧
      (secondAfter.2.account "west").keyCount = 2 ∧
      firstAfter.1 = firstAlone.1 ∧ secondAfter.1 = secondAlone.1 ∧
      secondAfter.2.Agree firstAfter.2 :=
  ⟨by decide, by decide, by decide,
    setups_commute neighbours sourceOfNeighbours destinationOfNeighbours "key-1" "key-2"
      (.inr (by decide)) (by decide) (by decide) (by decide)⟩

end SideSetup

end Setup

end BucketReplication
