import BucketReplication.Proofs.Setup.Effect

/-! # What a source refuses

A setup of a source whose settings are valid refuses nothing but its own new rule, for a
problem that the rule has by itself or because its name is taken. -/

namespace BucketReplication

theorem Rule.problem?_eq_some {rule : Rule} {problem : RuleProblem}
    (found : rule.problem? = some problem) :
    problem = .missingDestination ∨
      (problem = .invalidName rule.name ∧ isValidName rule.name = false) ∨
      (problem = .priorityOutOfRange rule.priority ∧ isValidPriority rule.priority = false) := by
  unfold problem? at found
  split at found
  · exact .inl (Option.some.inj found).symm
  · split at found
    · rename_i invalid
      exact .inr (.inl ⟨(Option.some.inj found).symm, by simpa using invalid⟩)
    · split at found
      · rename_i outOfRange
        exact .inr (.inr ⟨(Option.some.inj found).symm, by simpa using outOfRange⟩)
      · cases found

namespace Setup

namespace Side

variable {side : Side} {keys : String → Option ApplicationKey} {current? : Option Bucket}
  {problem : RuleProblem}

theorem storing_refused {created? : Option ApplicationKey} {keyId : String}
    (refused : (side.storing current? created? keyId).answer =
      .error (.invalidReplication problem)) :
    side.objection = some (.invalidReplication problem) ∨
      side.objection = none ∧ (side.stores keyId).problem? = some problem := by
  rw [storing.eq_def] at refused
  split at refused
  · rename_i error objects
    cases refused
    exact .inl objects
  · rename_i fine lacks
    cases refused
    exact .inr ⟨fine, lacks⟩
  · cases refused
  · split at refused <;> cases refused

theorem effect_refused {id : String}
    (refused : (side.effect keys current? id).answer = .error (.invalidReplication problem)) :
    side.objection = some (.invalidReplication problem) ∨
      side.objection = none ∧ ∃ keyId, (side.stores keyId).problem? = some problem := by
  have ofStoring : ∀ {created? : Option ApplicationKey} {keyId : String},
      (side.storing current? created? keyId).answer = .error (.invalidReplication problem) →
      side.objection = some (.invalidReplication problem) ∨
        side.objection = none ∧ ∃ keyId, (side.stores keyId).problem? = some problem := by
    intro created? keyId refused
    rcases storing_refused refused with objects | ⟨fine, lacks⟩
    · exact .inl objects
    · exact .inr ⟨fine, keyId, lacks⟩
  rw [effect.eq_def] at refused
  split at refused
  · exact ofStoring refused
  · cases refused
  · exact ofStoring refused

end Side

variable {accounts : Accounts} {settings : SetupSettings} {source destination : Handle}
  {wished : NewRule} {problem : RuleProblem}

theorem setupSource_refused (valid : source.bucket.IsValid)
    (refused : ((setupSource Accounts.gateway settings source destination wished).outcome
      accounts).1 = .error (.invalidReplication problem)) :
    let rule := ruleToAdd settings source.bucket destination.bucket wished
    rule.problem? = some problem ∨
      rule.name ∈ source.bucket.rules.map Rule.name ∧ problem = .duplicateName rule.name := by
  intro rule
  rw [sourceSide_outcome, (Side.outcome_reached _ accounts).answer] at refused
  rcases Side.effect_refused refused with objects | ⟨fine, keyId, lacks⟩
  · rcases Option.map_eq_some_iff.1 objects with ⟨found, has, same⟩
    cases same
    exact .inl has
  · have flawless : rule.problem? = none := Option.map_eq_none_iff.1 fine
    have stores : (settingsWithRule source.bucket keyId rule).problem? = some problem := lacks
    rw [problem?_settingsWithRule source.bucket keyId rule valid flawless] at stores
    split at stores
    · rename_i taken
      exact .inr ⟨taken, (Option.some.inj stores).symm⟩
    · cases stores

end Setup

end BucketReplication
