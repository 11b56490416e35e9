import BucketReplication.Proofs.Setup.Conversation
import BucketReplication.Proofs.Setup.Outcome
import Mathlib.Data.List.Basic

/-! # What one side reads and writes

One side of a setup reads the keys that its bucket names, the record of the bucket and
the id that is next. These alone decide what it answers, which key it creates and which
record it stores, and it changes nothing else on any account. -/

namespace BucketReplication

namespace Setup

/-- What becomes of one side: its answer, and what it creates and stores. -/
structure Effect where
  answer : Except Error Handle
  created? : Option ApplicationKey
  stored? : Option Bucket

namespace Side

def fitKey? (side : Side) (keys : String → Option ApplicationKey) : Option ApplicationKey :=
  ((side.keyIds.filterMap keys).filter fun key => key.isFitFor side.role).getLast?

def missing (side : Side) : Error :=
  .backend .notFound "no such bucket" (some side.handle.bucket.id)

def storing (side : Side) (current? : Option Bucket) (created? : Option ApplicationKey)
    (keyId : String) : Effect :=
  match side.objection, (side.stores keyId).problem?, current? with
  | some error, _, _ => ⟨.error error, created?, none⟩
  | none, some problem, _ => ⟨.error (.invalidReplication problem), created?, none⟩
  | none, none, none => ⟨.error side.missing, created?, none⟩
  | none, none, some current =>
    if current.revision = side.handle.bucket.revision then
      let bucket := current.updated (side.stores keyId)
      ⟨.ok ⟨side.handle.account, bucket⟩, created?, some bucket⟩
    else
      ⟨.error (.revisionMismatch side.handle.bucket.id side.handle.bucket.revision
        current.revision), created?, none⟩

def effect (side : Side) (keys : String → Option ApplicationKey) (current? : Option Bucket)
    (id : String) : Effect :=
  match side.fitKey? keys, current? with
  | some key, _ => side.storing current? none key.id
  | none, none => ⟨.error side.missing, none, none⟩
  | none, some _ =>
    let key := (keyRequest side.settings side.handle.bucket side.role).granted id
    side.storing current? (some key) key.id

theorem fitKey?_congr (side : Side) {keys others : String → Option ApplicationKey}
    (same : ∀ keyId ∈ side.keyIds, keys keyId = others keyId) :
    side.fitKey? keys = side.fitKey? others := by
  rw [fitKey?, fitKey?, List.filterMap_congr same]

theorem created?_storing (side : Side) (current? : Option Bucket)
    (created? : Option ApplicationKey) (keyId : String) :
    (side.storing current? created? keyId).created? = created? := by
  rw [storing.eq_def]
  split
  · rfl
  · rfl
  · rfl
  · split <;> rfl

theorem created?_effect {side : Side} {keys : String → Option ApplicationKey}
    {current? : Option Bucket} {id : String} {key : ApplicationKey}
    (created : (side.effect keys current? id).created? = some key) : key.id = id := by
  rw [effect.eq_def] at created
  split at created
  · rw [created?_storing] at created
    cases created
  · cases created
  · rw [created?_storing] at created
    cases created
    rfl

theorem stored?_storing {side : Side} {current? : Option Bucket}
    {created? : Option ApplicationKey} {keyId : String} {bucket : Bucket}
    (stored : (side.storing current? created? keyId).stored? = some bucket) :
    ∃ current, current? = some current ∧ bucket = current.updated (side.stores keyId) := by
  rw [storing.eq_def] at stored
  split at stored
  · cases stored
  · cases stored
  · cases stored
  · rename_i current _ _
    split at stored
    · cases stored
      exact ⟨current, rfl, rfl⟩
    · cases stored

theorem stored?_effect {side : Side} {keys : String → Option ApplicationKey}
    {current? : Option Bucket} {id : String} {bucket : Bucket}
    (stored : (side.effect keys current? id).stored? = some bucket) :
    ∃ current, current? = some current ∧ bucket.id = current.id := by
  have ofStoring : ∀ {created? : Option ApplicationKey} {keyId : String},
      (side.storing current? created? keyId).stored? = some bucket →
      ∃ current, current? = some current ∧ bucket.id = current.id := by
    intro created? keyId stored
    rcases stored?_storing stored with ⟨current, found, rfl⟩
    exact ⟨current, found, rfl⟩
  rw [effect.eq_def] at stored
  split at stored
  · exact ofStoring stored
  · cases stored
  · exact ofStoring stored

/-! ## On accounts -/

def chosen (side : Side) (accounts : Accounts) : Outcome Accounts ApplicationKey :=
  match side.fitKey? (accounts.key? side.handle.account) with
  | some key => (.ok key, accounts)
  | none =>
    accounts.createKey side.handle.account
      (keyRequest side.settings side.handle.bucket side.role)

def stored (side : Side) (keyId : String) (between : Accounts) : Outcome Accounts Handle :=
  match side.objection with
  | some error => (.error error, between)
  | none =>
    .onAccount side.handle.account
      (between.updateBucket side.handle.account side.handle.bucket.id
        side.handle.bucket.revision (side.stores keyId))

def outcome (side : Side) (accounts : Accounts) : Outcome Accounts Handle :=
  (side.chosen accounts).bind fun key between => side.stored key.id between

end Side

section

variable {settings : SetupSettings} {source destination : Handle} {wished : NewRule}
  {sourceKeyId : String} {accounts : Accounts}

theorem sourceSide_fitKey? :
    (sourceSide settings source destination wished).fitKey? (accounts.key? source.account) =
      fitSourceKey? accounts source := by
  rw [Side.fitKey?, fitSourceKey?, Side.keyIds, sourceSide, Bucket.keyIds]
  cases source.bucket.sourceKeyId with
  | none => rfl
  | some keyId =>
      cases found : accounts.key? source.account keyId with
      | none => simp [found]
      | some key =>
          cases fit : key.isFitForSource with
          | false => simp [found, fit, ApplicationKey.isFitFor, Option.filter_some]
          | true => simp [found, fit, ApplicationKey.isFitFor, Option.filter_some]

theorem sourceSide_outcome :
    (setupSource Accounts.gateway settings source destination wished).outcome accounts =
      (sourceSide settings source destination wished).outcome accounts := by
  rw [(setupSource_yields settings source destination wished accounts).outcome_eq,
    (sourceKey_yields settings source _ accounts).outcome_eq, ← sourceSide_fitKey?]
  refine congrArg (Outcome.bind _) (funext fun key => funext fun between => ?_)
  rw [Side.stored, sourceSide]
  dsimp only
  cases (ruleToAdd settings source.bucket destination.bucket wished).problem? with
  | some problem => rfl
  | none => exact (Handle.update_yields source _ _ between).outcome_eq

theorem destinationSide_chosen :
    (destinationKey Accounts.gateway settings destination
        destination.bucket.keyMapping).outcome accounts =
      ((destinationSide settings sourceKeyId destination).chosen accounts).bind
        fun key after => (.ok (absentKeyIds accounts destination.account
          (KeyMapping.destinationKeyIds destination.bucket.keyMapping), key), after) := by
  have named : (fitDestinationKeys accounts destination.account
      (KeyMapping.destinationKeyIds destination.bucket.keyMapping)).getLast? =
      (destinationSide settings sourceKeyId destination).fitKey?
        (accounts.key? (destinationSide settings sourceKeyId destination).handle.account) := rfl
  rw [(destinationKey_yields settings destination _ accounts).outcome_eq, Side.chosen]
  dsimp only
  rw [named]
  cases (destinationSide settings sourceKeyId destination).fitKey?
      (accounts.key? (destinationSide settings sourceKeyId destination).handle.account) <;> rfl

theorem destinationSide_outcome :
    (setupDestination Accounts.gateway settings sourceKeyId destination).outcome accounts =
      (destinationSide settings sourceKeyId destination).outcome accounts := by
  rw [(setupDestination_yields settings sourceKeyId destination accounts).outcome_eq,
    destinationSide_chosen, Side.outcome]
  rcases (destinationSide settings sourceKeyId destination).chosen accounts with
    ⟨error | key, between⟩
  · rfl
  · exact (Handle.update_yields destination _ _ between).outcome_eq

end

/-! ## The effect on accounts -/

theorem or_filter_some {α : Type} (item : α) (here : α → Prop) [DecidablePred here]
    (before : Option α) :
    ((some item).filter fun other => here other).or before =
      if here item then some item else before := by
  by_cases placed : here item <;> simp [Option.filter_some, placed]

/-- The outcome has the effect, on one account, and no other one. -/
structure Effect.Reached (effect : Effect) (account : String) (before : Accounts)
    (outcome : Outcome Accounts Handle) : Prop where
  answer : outcome.1 = effect.answer
  keys : ∀ other id, outcome.2.key? other id =
    (effect.created?.filter fun key => account = other ∧ key.id = id).or (before.key? other id)
  buckets : ∀ other id, outcome.2.bucket? other id =
    (effect.stored?.filter fun bucket => account = other ∧ bucket.id = id).or
      (before.bucket? other id)
  names : ∀ other, (outcome.2.account other).bucketIds = (before.account other).bucketIds

namespace Side

theorem stored_reached (side : Side) {accounts between : Accounts}
    {created? : Option ApplicationKey} (keyId : String)
    (keys : ∀ other id, between.key? other id =
      (created?.filter fun key => side.handle.account = other ∧ key.id = id).or
        (accounts.key? other id))
    (buckets : ∀ other id, between.bucket? other id = accounts.bucket? other id)
    (names : ∀ other, (between.account other).bucketIds = (accounts.account other).bucketIds) :
    (side.storing (accounts.bucket? side.handle.account side.handle.bucket.id) created?
      keyId).Reached side.handle.account accounts (side.stored keyId between) := by
  have refused : ∀ error : Error, Effect.Reached ⟨.error error, created?, none⟩
      side.handle.account accounts (.error error, between) := fun error =>
    ⟨rfl, keys, fun other id => buckets other id, names⟩
  rw [Side.stored, storing.eq_def, ← buckets]
  cases side.objection with
  | some error => exact refused error
  | none =>
      dsimp only
      cases problem : (side.stores keyId).problem? with
      | some problem =>
          rw [Accounts.updateBucket_eq, problem]
          exact refused _
      | none =>
          cases found : between.bucket? side.handle.account side.handle.bucket.id with
          | none =>
              rw [Accounts.updateBucket_eq, problem, found]
              exact refused _
          | some current =>
              by_cases same : current.revision = side.handle.bucket.revision
              · have updated := Accounts.updateBucket_of_current problem found
                rw [same] at updated
                rw [updated]
                dsimp only
                rw [if_pos same]
                rcases Accounts.updateBucket_ok updated with ⟨-, -, -, -, -, changes⟩
                refine ⟨rfl, fun other id => ?_, fun other id => ?_, fun other => ?_⟩
                · exact (Accounts.key?_updateBucket updated other id).trans (keys other id)
                · refine (Accounts.bucket?_updateBucket updated other id).trans ?_
                  rw [or_filter_some, buckets]
                · exact (changes.view_eq rfl other).trans (names other)
              · rw [Accounts.updateBucket_of_stale problem found same]
                dsimp only
                rw [if_neg same]
                exact refused _

/-- A side has its effect: what it does follows from the keys of its account, the record
of its bucket and the next id. -/
theorem outcome_reached (side : Side) (accounts : Accounts) :
    (side.effect (accounts.key? side.handle.account)
      (accounts.bucket? side.handle.account side.handle.bucket.id) accounts.ids.next).Reached
      side.handle.account accounts (side.outcome accounts) := by
  rw [outcome, chosen, effect.eq_def]
  cases side.fitKey? (accounts.key? side.handle.account) with
  | some key =>
      exact side.stored_reached key.id (fun _ _ => rfl) (fun _ _ => rfl) fun _ => rfl
  | none =>
      dsimp only
      have bound : (keyRequest side.settings side.handle.bucket side.role).bucketId =
          some side.handle.bucket.id := by cases side.role <;> rfl
      cases found : accounts.bucket? side.handle.account side.handle.bucket.id with
      | none =>
          rw [Accounts.createKey_of_missing bound found]
          exact ⟨rfl, fun _ _ => rfl, fun _ _ => rfl, fun _ => rfl⟩
      | some current =>
          rcases Accounts.createKey_of_found bound found with ⟨between, created⟩
          have keys : ∀ other id, between.key? other id =
              ((some ((keyRequest side.settings side.handle.bucket side.role).granted
                accounts.ids.next)).filter fun key =>
                  side.handle.account = other ∧ key.id = id).or (accounts.key? other id) := by
            intro other id
            rw [or_filter_some]
            exact Accounts.key?_createKey created other id
          have names : ∀ other,
              (between.account other).bucketIds = (accounts.account other).bucketIds :=
            (Accounts.createKey_ok created).2.2.view_eq rfl
          have reached := side.stored_reached
            ((keyRequest side.settings side.handle.bucket side.role).granted accounts.ids.next).id
            keys (Accounts.bucket?_createKey created) names
          rw [found] at reached
          rw [created]
          exact reached

end Side

end Setup

end BucketReplication
