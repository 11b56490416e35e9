import BucketReplication.Proofs.History.Session
import BucketReplication.Proofs.Replication.Validity

/-! # What a setup of a source comes to

A setup of a source can fail for the rule by itself, for its name among the other
rules, or for the revision of its snapshot, in this order. Nothing else stands in
its way: the bucket of a handle exists, so a key can always be created, and the
settings of a snapshot are valid. -/

namespace BucketReplication

theorem Rule.match_problem? {α : Type} (rule : Rule) (refuse : RuleProblem → α) (accept : α) :
    (match rule.problem? with
    | some problem => refuse problem
    | none => accept) =
      if rule.destinationBucketId = "" then refuse .missingDestination
      else if isValidName rule.name = false then refuse (.invalidName rule.name)
      else if ¬ (1 ≤ rule.priority.toNat ∧ rule.priority.toNat ≤ 2147483647) then
        refuse (.priorityOutOfRange rule.priority)
      else accept := by
  unfold problem?
  simp only [← isValidPriority_iff, ← String.isEmpty_iff, Bool.not_eq_true', Bool.not_eq_true]
  cases rule.destinationBucketId.isEmpty with
  | true => rfl
  | false =>
      cases isValidName rule.name with
      | false => rfl
      | true => cases isValidPriority rule.priority <;> rfl

namespace Setup

variable {accounts : Accounts} {settings : SetupSettings} {source destination : Handle}
  {wished : NewRule} {stored : Bucket}

theorem sourceKey_of_found (settings : SetupSettings) (fileNameStart : String)
    (found : accounts.bucket? source.account source.bucket.id = some stored) :
    ∃ key between,
      (sourceKey Accounts.gateway settings source fileNameStart).outcome accounts =
        (.ok key, between) ∧
      ∀ other id, between.bucket? other id = accounts.bucket? other id := by
  rcases chosen : (sourceKey Accounts.gateway settings source fileNameStart).outcome accounts with
    ⟨error | key, between⟩
  · have missing := (sourceKey_error chosen).2
    rw [found] at missing
    cases missing
  · exact ⟨key, between, rfl, (sourceKey_addsKey chosen).bucket?⟩

theorem update_settingsWithRule {rule : Rule} (keyId : String) (valid : source.bucket.IsValid)
    (fine : rule.problem? = none)
    (found : accounts.bucket? source.account source.bucket.id = some stored) :
    ((source.update Accounts.gateway source.bucket.revision
      (settingsWithRule source.bucket keyId rule)).outcome accounts).1 =
      if rule.name ∈ source.bucket.rules.map Rule.name then
        .error (.invalidReplication (.duplicateName rule.name))
      else if source.bucket.revision ≠ stored.revision then
        .error (.revisionMismatch source.bucket.id source.bucket.revision stored.revision)
      else .ok ⟨source.account, stored.updated (settingsWithRule source.bucket keyId rule)⟩ := by
  have problem := problem?_settingsWithRule source.bucket keyId rule valid fine
  rw [(Handle.update_yields source _ _ accounts).outcome_eq]
  by_cases repeated : rule.name ∈ source.bucket.rules.map Rule.name
  · rw [if_pos repeated] at problem ⊢
    rw [Accounts.updateBucket_eq, problem]
    rfl
  · rw [if_neg repeated] at problem ⊢
    by_cases current : stored.revision = source.bucket.revision
    · rw [← current, Accounts.updateBucket_of_current problem found,
        if_neg (fun stale => stale rfl)]
      rfl
    · rw [Accounts.updateBucket_of_stale problem found current, if_pos (Ne.symm current)]
      rfl

theorem setupSource_of_found (settings : SetupSettings) (destination : Handle)
    (wished : NewRule) (valid : source.bucket.IsValid)
    (found : accounts.bucket? source.account source.bucket.id = some stored) :
    let rule := ruleToAdd settings source.bucket destination.bucket wished
    ∃ keyId,
      ((setupSource Accounts.gateway settings source destination wished).outcome accounts).1 =
        match rule.problem? with
        | some problem => .error (.invalidReplication problem)
        | none =>
          if rule.name ∈ source.bucket.rules.map Rule.name then
            .error (.invalidReplication (.duplicateName rule.name))
          else if source.bucket.revision ≠ stored.revision then
            .error (.revisionMismatch source.bucket.id source.bucket.revision stored.revision)
          else .ok ⟨source.account, stored.updated (settingsWithRule source.bucket keyId rule)⟩ := by
  intro rule
  rcases sourceKey_of_found settings (wished.fileNameStart.getD "") found with
    ⟨key, between, chosen, kept⟩
  refine ⟨key.id, ?_⟩
  rw [(setupSource_yields settings source destination wished accounts).outcome_eq, chosen,
    Outcome.bind]
  dsimp only
  cases problem : rule.problem? with
  | some problem => rfl
  | none =>
      have present := (kept source.account source.bucket.id).trans found
      exact update_settingsWithRule key.id valid problem present

end Setup

namespace Session

/-- The result of a setup of a source, for every handle that was handed out and
whatever is asked for. The problem of the rule that comes first is reported, then a
repeated name, then a snapshot that is out of date. Otherwise the bucket has one
rule more than the snapshot, at the next revision, and is the same as a
destination. -/
theorem setupSource_outcome {session : Session} (reached : Reached (fun _ _ => True) session)
    (distinct : session.accounts.IdsDistinct) (low : session.chronicle.RevisionsLow)
    {source : Handle} (held : source ∈ session.handles) (destination : Handle)
    (settings : SetupSettings) (wished : NewRule) :
    let name := NewRule.chooseName source.bucket.rules destination.bucket.name wished.name
    let priority := NewRule.choosePriority settings source.bucket.rules wished.priority
    let rule : Rule :=
      { name, priority
        destinationBucketId := destination.bucket.id
        fileNameStart := wished.fileNameStart.getD ""
        includesExistingFiles := wished.includesExistingFiles
        isEnabled := true }
    let outcome := (Setup.setupSource Accounts.gateway settings source destination wished).outcome
      session.accounts
    ∃ stored keyId,
      session.accounts.bucket? source.account source.bucket.id = some stored ∧
      (outcome.1 =
        if destination.bucket.id = "" then .error (.invalidReplication .missingDestination)
        else if Rule.isValidName name = false then
          .error (.invalidReplication (.invalidName name))
        else if ¬ (1 ≤ priority.toNat ∧ priority.toNat ≤ 2147483647) then
          .error (.invalidReplication (.priorityOutOfRange priority))
        else if name ∈ source.bucket.rules.map Rule.name then
          .error (.invalidReplication (.duplicateName name))
        else if source.bucket.revision ≠ stored.revision then
          .error (.revisionMismatch source.bucket.id source.bucket.revision stored.revision)
        else .ok
          { account := source.account
            bucket :=
              { id := source.bucket.id
                name := source.bucket.name
                revision := source.bucket.revision + 1
                replication := some
                  { source := some ⟨some keyId, source.bucket.rules ++ [rule]⟩
                    destination := source.bucket.destinationSettings } } }) ∧
      ∀ handle, outcome.1 = .ok handle →
        outcome.2.bucket? source.account source.bucket.id = some handle.bucket ∧
        handle.bucket.revision.toNat = source.bucket.revision.toNat + 1 := by
  intro name priority rule outcome
  have orderly := reached.orderly_of_low distinct low
  have sound := reached.sound orderly
  rcases sound.known_handle held with ⟨count, known⟩
  rcases sound.coherent.exists_stored known with ⟨stored, found⟩
  have identifies := sound.coherent.eq_stored orderly known found
  rcases Setup.setupSource_of_found settings destination wished known.lineage.isValid found with
    ⟨keyId, result⟩
  refine ⟨stored, keyId, found, ?_, ?_⟩
  · rw [Rule.match_problem?] at result
    by_cases stale : source.bucket.revision ≠ stored.revision
    · rw [if_pos stale] at result ⊢
      exact result
    · -- At the stored revision the snapshot is the stored record, id and name included.
      have same := identifies (Decidable.not_not.1 stale).symm
      subst same
      exact result
  · intro handle succeeded
    rcases Setup.setupSource_ok (Prod.ext succeeded rfl) with ⟨key, between, _, updated, _⟩
    have sameId : handle.bucket.id = source.bucket.id := Accounts.updateBucket_id updated
    have present := Chronicle.current_updateBucket updated
    rw [sameId] at present
    refine ⟨present, ?_⟩
    have room := known.revision_lt low
    rcases Accounts.updateBucket_ok updated with ⟨_, before, _, sameRevision, stores, _⟩
    have raised : handle.bucket.revision = source.bucket.revision + 1 := by
      rw [stores, ← sameRevision]
      rfl
    rw [raised, UInt64.toNat_add, UInt64.toNat_one]
    exact Nat.mod_eq_of_lt (Nat.add_lt_of_lt_sub room)

theorem setupSource_outcome_tour :
    Reached (fun _ _ => True) tour ∧ tour.accounts.IdsDistinct ∧
      tour.chronicle.RevisionsLow ∧ ⟨"west", .new "bucket-1" "photos"⟩ ∈ tour.handles ∧
      ((Setup.setupSource Accounts.gateway .default ⟨"west", .new "bucket-1" "photos"⟩
        ⟨"east", .new "bucket-2" "backup"⟩ .derived).outcome tour.accounts).1 =
        .error (.revisionMismatch "bucket-1" 1 2) := by
  have reached : Reached (fun _ _ => True) tour := .run (.start tourIds) (by decide)
  have low : tour.chronicle.RevisionsLow := by decide
  have held : ⟨"west", .new "bucket-1" "photos"⟩ ∈ tour.handles := by decide
  rcases setupSource_outcome reached tour_distinct low held ⟨"east", .new "bucket-2" "backup"⟩
    .default .derived with ⟨stored, keyId, found, result, _⟩
  have second : (tour.accounts.bucket? "west" "bucket-1").map Bucket.revision = some 2 := by
    decide
  have revision : stored.revision = 2 :=
    Option.some.inj ((congrArg (Option.map Bucket.revision) found).symm.trans second)
  rw [revision] at result
  exact ⟨reached, tour_distinct, low, held, result⟩

end Session

end BucketReplication
