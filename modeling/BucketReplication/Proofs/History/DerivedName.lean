import BucketReplication.Proofs.History.SourceSetup
import BucketReplication.Proofs.History.Validity
import BucketReplication.Proofs.Setup.Refusal
import BucketReplication.Proofs.Setup.RuleName

/-! # Setups that derive a name

A setup of a source that is given no name never repeats one. It can fail for the name all the
same: when all candidates that are short enough are taken, the first free one is too long,
and the setup refuses the name that it derived itself. -/

namespace BucketReplication

namespace Setup

variable {accounts : Accounts} {settings : SetupSettings} {source destination : Handle}
  {wished : NewRule} {stored : Bucket}

theorem setupSource_refuses_name (valid : source.bucket.IsValid)
    (found : accounts.bucket? source.account source.bucket.id = some stored)
    (leads : destination.bucket.id ≠ "") :
    (∃ name, ((setupSource Accounts.gateway settings source destination wished).outcome
      accounts).1 = .error (.invalidReplication (.invalidName name))) ↔
      Rule.isValidName
        (NewRule.chooseName source.bucket.rules destination.bucket.name wished.name) = false := by
  constructor
  · rintro ⟨name, failed⟩
    rcases setupSource_refused valid failed with own | ⟨_, other⟩
    · rcases Rule.problem?_eq_some own with other | ⟨_, invalid⟩ | ⟨other, _⟩
      · cases other
      · exact invalid
      · cases other
    · cases other
  · intro invalid
    rcases setupSource_of_found settings destination wished valid found with ⟨keyId, result⟩
    have leadsThere : (ruleToAdd settings source.bucket destination.bucket
      wished).destinationBucketId ≠ "" := leads
    rw [Rule.match_problem?, if_neg leadsThere, ruleToAdd, if_pos invalid] at result
    exact ⟨_, result⟩

end Setup

namespace Session

/-- Without a given name a rule is named by the first free candidate. It is found after as
many candidates as there are different names and one more, at most, before a counter of 64
bits ends. So no handle that was ever handed out leads to a repeated name. -/
theorem derived_names_are_free :
    (∀ (rules : List Rule) (destinationName : String), rules.length < 2 ^ 64 - 2 →
      let taken := rules.map Rule.name
      ∃ index,
        NewRule.search taken destinationName NewRule.candidateCount 0 = some index ∧
        index + 1 ≤ taken.eraseDups.length + 1 ∧
        index + 1 < 2 ^ 64 - 1 ∧
        NewRule.chooseName rules destinationName none =
          NewRule.candidateName destinationName index ∧
        NewRule.candidateName destinationName index ∉ taken ∧
        ∀ earlier < index, NewRule.candidateName destinationName earlier ∈ taken) ∧
    ∀ (ids : List String) (requests : List Request),
      let session := (start ids).run requests
      ∀ source ∈ session.handles, ∀ (destination : Handle) (settings : SetupSettings)
        (wished : NewRule), wished.name = none → ∀ name,
        ((Setup.setupSource Accounts.gateway settings source destination wished).outcome
          session.accounts).1 ≠ .error (.invalidReplication (.duplicateName name)) := by
  constructor
  · intro rules destinationName few taken
    rcases NewRule.exists_firstFree taken destinationName with ⟨index, firstFree⟩
    have fewer : index ≤ rules.length := by
      rw [← List.length_map Rule.name]
      exact NewRule.le_of_taken firstFree.others
    have enough : index < 0 + NewRule.candidateCount := by
      rw [NewRule.candidateCount]
      omega
    exact ⟨index, NewRule.search_of_firstFree firstFree (Nat.zero_le index) enough,
      Nat.succ_le_succ firstFree.le_distinct, by omega,
      NewRule.chooseName_of_firstFree firstFree, firstFree.free, firstFree.others⟩
  · intro ids requests session source held destination settings wished derived name refused
    have valid := ((valid_start ids).run requests).handed source held
    rcases Setup.setupSource_refused valid refused with own | ⟨taken, -⟩
    · rcases Rule.problem?_eq_some own with other | ⟨other, -⟩ | ⟨other, -⟩ <;> cases other
    · -- The name is a free candidate, so it is not taken.
      rcases NewRule.exists_firstFree (source.bucket.rules.map Rule.name)
        destination.bucket.name with ⟨index, firstFree⟩
      have chosen : (Setup.ruleToAdd settings source.bucket destination.bucket wished).name =
          NewRule.candidateName destination.bucket.name index := by
        rw [Setup.ruleToAdd, derived]
        exact NewRule.chooseName_of_firstFree firstFree
      rw [chosen] at taken
      exact firstFree.free taken

/-- The candidate with 2 looks like a longer name that is taken, so the one with 3 is
chosen. -/
theorem derived_names_are_free_gap :
    let rules : List Rule := [.new "dest-1" "id", .new "dest-12" "id", .new "dest-1" "id"]
    rules.length < 2 ^ 64 - 2 ∧
      (∃ index,
        NewRule.search (rules.map Rule.name) "dest-1" NewRule.candidateCount 0 = some index ∧
        index + 1 ≤ 3 ∧ NewRule.candidateName "dest-1" index = "dest-13") ∧
      ⟨"west", .new "bucket-1" "photos"⟩ ∈ tour.handles ∧
      ((Setup.setupSource Accounts.gateway .default ⟨"west", .new "bucket-1" "photos"⟩
        ⟨"east", .new "bucket-2" "backup"⟩ .derived).outcome tour.accounts).1 ≠
        .error (.invalidReplication (.duplicateName "backup")) := by
  intro rules
  have few : rules.length < 2 ^ 64 - 2 := by decide
  have held : ⟨"west", .new "bucket-1" "photos"⟩ ∈ tour.handles := by decide
  rcases derived_names_are_free.1 rules "dest-1" few with
    ⟨index, found, tried, _, chosen, _, _⟩
  have distinct : (rules.map Rule.name).eraseDups.length = 2 := by decide
  have name : NewRule.chooseName rules "dest-1" none = "dest-13" := by decide
  rw [distinct] at tried
  exact ⟨few, ⟨index, found, tried, chosen.symm.trans name⟩, held,
    derived_names_are_free.2 tourIds tourRequests _ held _ .default .derived rfl "backup"⟩

/-! ## Names that a setup derives and refuses -/

/-- A setup of a source that is up to date, by a derived name, is refused for that name
exactly if all candidates of at most 64 characters are taken. While the name of the
destination is shorter than that and the source has fewer rules than there are numbers of the
length that is left, the setup is never refused for its name. -/
theorem derived_name_refused_iff {ids : List String} {requests : List Request}
    {source destination : Handle} {wished : NewRule}
    (current : ((start ids).run requests).accounts.bucket? source.account source.bucket.id =
      some source.bucket)
    (leads : destination.bucket.id ≠ "")
    (acceptable : Rule.isValidName destination.bucket.name = true)
    (derived : wished.name = none) (settings : SetupSettings) :
    let result := ((Setup.setupSource Accounts.gateway settings source destination
      wished).outcome ((start ids).run requests).accounts).1
    let candidate := NewRule.candidateName destination.bucket.name
    ((∃ name, result = .error (.invalidReplication (.invalidName name))) ↔
      ∀ index, (candidate index).length ≤ 64 →
        candidate index ∈ source.bucket.rules.map Rule.name) ∧
    (destination.bucket.name.length < 64 →
      source.bucket.rules.length + 1 < 10 ^ (64 - destination.bucket.name.length) →
      ∀ name, result ≠ .error (.invalidReplication (.invalidName name))) := by
  intro result candidate
  have valid : source.bucket.IsValid := ((valid_start ids).run requests).stored _ _ _ current
  have refused : (∃ name, result = .error (.invalidReplication (.invalidName name))) ↔ _ :=
    Setup.setupSource_refuses_name valid current leads
  rw [derived] at refused
  refine ⟨refused.trans (NewRule.isValidName_chooseName _ acceptable), ?_⟩
  intro room few name failed
  have fine := NewRule.isValidName_chooseName_of_few acceptable room few
  rw [refused.1 ⟨name, failed⟩] at fine
  cases fine

def setUpSource (destinationName : String) : Handle :=
  let source : Bucket := .new "bucket-1" "photos"
  ⟨"west", source.updated (Setup.settingsWithRule source "key-1"
    (Setup.ruleToAdd .default source (.new "bucket-2" destinationName) .derived))⟩

theorem derived_name_refused_iff_tour :
    let source := setUpSource "backup"
    let destination : Handle := ⟨"east", .new "bucket-2" "backup"⟩
    tour.accounts.bucket? source.account source.bucket.id = some source.bucket ∧
      destination.bucket.id ≠ "" ∧ Rule.isValidName destination.bucket.name = true ∧
      ∀ name, ((Setup.setupSource Accounts.gateway .default source destination
        .derived).outcome tour.accounts).1 ≠ .error (.invalidReplication (.invalidName name)) := by
  intro source destination
  have current : tour.accounts.bucket? source.account source.bucket.id = some source.bucket := by
    decide
  have leads : destination.bucket.id ≠ "" := by decide
  have acceptable : Rule.isValidName destination.bucket.name = true := by decide
  have room : destination.bucket.name.length < 64 := by decide
  have few : source.bucket.rules.length + 1 < 10 ^ (64 - destination.bucket.name.length) := by
    decide
  exact ⟨current, leads, acceptable,
    (derived_name_refused_iff current leads acceptable rfl .default).2 room few⟩

def longName : String := String.ofList (List.replicate 64 'b')

def longRequests : List Request :=
  [.createBucket "west" "photos", .createBucket "east" longName,
    .setupSource .default ⟨"west", .new "bucket-1" "photos"⟩
      ⟨"east", .new "bucket-2" longName⟩ .derived]

/-- A second rule for the same destination is refused: with a 2 behind it the name that is
derived is too long. -/
theorem derived_name_refused_longName :
    let session := (start tourIds).run longRequests
    let source := setUpSource longName
    let destination : Handle := ⟨"east", .new "bucket-2" longName⟩
    source ∈ session.handles ∧
      session.accounts.bucket? source.account source.bucket.id = some source.bucket ∧
      destination ∈ session.handles ∧ destination.bucket.id ≠ "" ∧
      Rule.isValidName destination.bucket.name = true ∧ NewRule.derived.name = none ∧
      ((Setup.setupSource Accounts.gateway .default source destination
        .derived).outcome session.accounts).1 =
        .error (.invalidReplication (.invalidName (longName ++ "2"))) := by
  decide +kernel

end Session

end BucketReplication
