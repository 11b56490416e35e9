import BucketReplication.Proofs.History.KeyReplacement
import BucketReplication.Proofs.History.SelfSetup
import BucketReplication.Proofs.History.Validity
import BucketReplication.Proofs.Setup.Refusal
import BucketReplication.Proofs.Setup.RulePriority

/-! # Setups that derive a priority

A setup of a source that is given no priority places its rule above all others, and never
leaves the range. A bucket that starts without rules and gets them from such setups only, all
with the same settings, keeps every rule one offset above the one before it. -/

namespace BucketReplication

namespace Request

def derivesPriority (settings : SetupSettings) : Request → Bool
  | .setupSource used _ _ wished => used = settings ∧ wished.priority = none
  | .setupBoth used _ _ wished => used = settings ∧ wished.priority = none
  | .storeRule used _ _ wished _ => used = settings ∧ wished.priority = none
  | _ => false

end Request

namespace Accounts

def rules? (accounts : Accounts) (account id : String) : Option (List Rule) :=
  (accounts.bucket? account id).map Bucket.rules

/-- The bucket exists, and each of its rules was placed above those before it. -/
def Placed (accounts : Accounts) (settings : SetupSettings) (account id : String) : Prop :=
  ∃ rules, accounts.rules? account id = some rules ∧ NewRule.Placed settings rules

namespace Placed

variable {accounts after : Accounts} {settings : SetupSettings} {account id : String}

theorem kept (placed : accounts.Placed settings account id)
    (same : ∀ other name, after.bucket? other name = accounts.bucket? other name) :
    after.Placed settings account id := by
  rw [Placed, rules?, same]
  exact placed

theorem updated {between : Accounts} {owner : String} {shown bucket : Bucket}
    {revision : UInt64} {stores : ReplicationSettings}
    (placed : accounts.Placed settings account id)
    (found : accounts.bucket? owner shown.id = some shown) (adds : accounts.AddsKey between)
    (updated : between.updateBucket owner shown.id revision stores = (.ok bucket, after))
    (follows : NewRule.Placed settings shown.rules →
      NewRule.Placed settings (shown.updated stores).rules) :
    after.Placed settings account id := by
  have sameId := updateBucket_id updated
  have puts := bucket?_updateBucket updated account id
  rcases updateBucket_ok updated with ⟨_, stored, foundThen, _, rfl, _⟩
  rw [adds.bucket?, found] at foundThen
  cases foundThen
  rcases placed with ⟨rules, has, placed⟩
  rw [Placed, rules?, puts, sameId]
  by_cases here : owner = account ∧ shown.id = id
  · rcases here with ⟨rfl, rfl⟩
    rw [rules?, found] at has
    cases has
    rw [if_pos ⟨rfl, rfl⟩]
    exact ⟨(shown.updated stores).rules, rfl, follows placed⟩
  · rw [if_neg here, adds.bucket?]
    exact ⟨rules, has, placed⟩

end Placed

end Accounts

theorem NewRule.Placed.withRule {settings : SetupSettings} {source destination : Bucket}
    {wished : NewRule} (derived : wished.priority = none) (keyId : String)
    (placed : NewRule.Placed settings source.rules) :
    NewRule.Placed settings (source.updated (Setup.settingsWithRule source keyId
      (Setup.ruleToAdd settings source destination wished))).rules := by
  rw [Setup.rules_settingsWithRule]
  refine placed.add ?_
  rw [Setup.ruleToAdd, derived]

theorem NewRule.Placed.withMapping {settings : SetupSettings} {destination : Bucket}
    (sourceKeyId destinationKeyId : String)
    (placed : NewRule.Placed settings destination.rules) :
    NewRule.Placed settings (destination.updated
      (Setup.settingsWithMapping destination sourceKeyId destinationKeyId)).rules := by
  rw [Setup.rules_settingsWithMapping]
  exact placed

theorem Bucket.IsValid.wellFormed {bucket : Bucket} (valid : bucket.IsValid) :
    ∀ rule ∈ bucket.rules, rule.WellFormed := by
  intro rule listed
  exact (Rule.problem?_eq_none_iff rule).1
    (List.findSome?_eq_none_iff.1 valid.rules.2 rule listed)

theorem Setup.setupSource_in_range {settings : SetupSettings} {source destination : Handle}
    {wished : NewRule} {accounts : Accounts} (valid : source.bucket.IsValid)
    (fine : settings.problem? = none) (derived : wished.priority = none) (priority : UInt32) :
    ((setupSource Accounts.gateway settings source destination wished).outcome accounts).1 ≠
      .error (.invalidReplication (.priorityOutOfRange priority)) := by
  intro refused
  rcases setupSource_refused valid refused with own | ⟨_, other⟩
  · rcases Rule.problem?_eq_some own with other | ⟨other, _⟩ | ⟨_, outOfRange⟩
    · cases other
    · cases other
    · have inRange := (Rule.isValidPriority_iff _).2
        (NewRule.choosePriority_bounded valid.wellFormed fine)
      rw [ruleToAdd, derived, inRange] at outOfRange
      cases outOfRange
  · cases other

/-! ## Turns -/

namespace Turn

variable {settings : SetupSettings} {account id : String}

theorem Proper.placed {turn : Turn} (proper : turn.Proper)
    (placed : turn.before.Placed settings account id)
    (follows : ∀ keyId, NewRule.Placed settings turn.side.handle.bucket.rules →
      NewRule.Placed settings (turn.side.handle.bucket.updated (turn.side.stores keyId)).rules) :
    turn.after.Placed settings account id := by
  have carried := proper.carried
  have shown := proper.shown
  rw [Turn.after]
  rcases result : turn.outcome with ⟨answer, after⟩
  rw [result] at carried shown
  cases carried with
  | failed adds => exact placed.kept adds.bucket?
  | @reused key handle after named found fit updated =>
      exact placed.updated (shown handle rfl) (.inl rfl) updated (follows key.id)
  | @renewed key handle between after unfit created updated =>
      have adds : turn.before.AddsKey between := .inr ⟨_, _, key, created⟩
      exact placed.updated (shown handle rfl) adds updated (follows key.id)

theorem Sequence.placed {turns : List Turn} {first last : Accounts}
    (sequence : Sequence first turns last)
    (each : ∀ turn ∈ turns, turn.Proper → turn.before.Placed settings account id →
      turn.after.Placed settings account id)
    (placed : first.Placed settings account id) : last.Placed settings account id := by
  induction sequence with
  | nil accounts => exact placed
  | @cons turn rest last proper later induction =>
      apply induction fun other inRest => each other (List.mem_cons_of_mem _ inRest)
      exact each turn List.mem_cons_self proper placed

end Turn

namespace Session

variable {session : Session} {settings : SetupSettings} {account id : String}

/-! ## Runs -/

/-- What may be asked for while the rules of a bucket are placed: setups that place a rule, and
whatever leaves the rules of the bucket as they are. -/
def PlacesOrKeeps (settings : SetupSettings) (account id : String) (chronicle : Chronicle)
    (request : Request) : Prop :=
  request.derivesPriority settings = true ∨
    (chronicle.carryOut request).2.accounts.rules? account id =
      chronicle.accounts.rules? account id

instance (settings : SetupSettings) (account id : String) (chronicle : Chronicle)
    (request : Request) : Decidable (PlacesOrKeeps settings account id chronicle request) :=
  inferInstanceAs (Decidable (_ ∨ _))

theorem storeRule_placed {source destination : Handle} {wished : NewRule} (sound : session.Sound)
    (orderly : session.chronicle.Orderly) (held : source ∈ session.handles)
    (derived : wished.priority = none) (keyId : String)
    (placed : session.accounts.Placed settings account id) :
    (session.step (.storeRule settings source destination wished keyId)).accounts.Placed settings
      account id := by
  rcases sound.known_handle held with ⟨count, known⟩
  rw [accounts, step, Chronicle.carryOut, Chronicle.accounts_recorded]
  rcases result : (source.update Accounts.gateway source.bucket.revision
    (Setup.settingsWithRule source.bucket keyId
      (Setup.ruleToAdd settings source.bucket destination.bucket wished))).outcome
    session.chronicle.accounts with ⟨error | handle, after⟩
  · rw [Handle.update_error result]
    exact placed
  · have updated := (Handle.update_ok result).1
    have shown := (Chronicle.shown_of_updated sound.coherent orderly known (.inl rfl) updated).1
    exact placed.updated shown (.inl rfl) updated (.withRule derived keyId)

theorem step_placed {request : Request} (sound : session.Sound)
    (holds : session.Holds request)
    (may : PlacesOrKeeps settings account id session.chronicle request)
    (orderly : (session.step request).chronicle.Orderly)
    (placed : session.accounts.Placed settings account id) :
    (session.step request).accounts.Placed settings account id := by
  rcases may with derives | same
  · have sequence := turns_sequence sound holds orderly
    cases request with
    | setupSource used source destination wished =>
        rcases decide_eq_true_iff.1 derives with ⟨rfl, derived⟩
        refine (sequence (by simp [Request.turns])).placed ?_ placed
        intro turn taken proper placedThen
        cases List.mem_singleton.1 taken
        exact proper.placed placedThen fun keyId => .withRule derived keyId
    | setupBoth used source destination wished =>
        rcases decide_eq_true_iff.1 derives with ⟨rfl, derived⟩
        refine (sequence ?_).placed ?_ placed
        · rw [Request.turns]
          split <;> exact List.cons_ne_nil _ _
        · intro turn taken proper placedThen
          rw [Request.turns] at taken
          split at taken
          · rcases List.mem_cons.1 taken with rfl | second
            · exact proper.placed placedThen fun keyId => .withRule derived keyId
            · cases List.mem_singleton.1 second
              exact proper.placed placedThen fun keyId => .withMapping _ keyId
          · cases List.mem_singleton.1 taken
            exact proper.placed placedThen fun keyId => .withRule derived keyId
    | storeRule used source destination wished keyId =>
        rcases decide_eq_true_iff.1 derives with ⟨rfl, derived⟩
        have held := holds source (by simp [Request.written])
        have before := (step_continued session _).orderly orderly
        exact storeRule_placed sound before held derived keyId placed
    | _ => cases derives
  · rcases placed with ⟨rules, has, placed⟩
    exact ⟨rules, same.trans has, placed⟩

theorem run_placed {requests : List Request} (sound : session.Sound)
    (follows : session.Follows (PlacesOrKeeps settings account id) requests)
    (orderly : (session.run requests).chronicle.Orderly)
    (placed : session.accounts.Placed settings account id) :
    (session.run requests).accounts.Placed settings account id ∧
      (session.run requests).Sound := by
  induction requests generalizing session with
  | nil => exact ⟨placed, sound⟩
  | cons request rest induction =>
      rcases follows with ⟨⟨holds, may⟩, later⟩
      have orderlyNext := (run_continued (session.step request) rest).orderly orderly
      exact induction (sound.step holds orderlyNext) later orderly
        (step_placed sound holds may orderlyNext placed)

theorem placed_priorities {bucket : Bucket} (sound : session.Sound)
    (orderly : session.chronicle.Orderly) (fine : settings.problem? = none)
    (found : session.accounts.bucket? account id = some bucket)
    (placed : NewRule.Placed settings bucket.rules) :
    (∀ index rule, bucket.rules[index]? = some rule →
      rule.priority.toNat = NewRule.placedPriority settings index) ∧
    ∀ source ∈ session.handles, source.account = account → source.bucket.id = id →
      ∀ destination wished handle, wished.priority = none →
        ((Setup.setupSource Accounts.gateway settings source destination wished).outcome
          session.accounts).1 = .ok handle →
        ∃ rule, handle.bucket.rules = bucket.rules ++ [rule] ∧
          rule.priority.toNat = NewRule.placedPriority settings bucket.rules.length := by
  refine ⟨fun index rule => placed.priority_eq fine, ?_⟩
  rintro source held rfl rfl destination wished handle derived succeeded
  rcases sound.known_handle held with ⟨count, known⟩
  rcases Chronicle.setupSource_stores_next sound.coherent orderly known
    (Prod.ext succeeded rfl) with ⟨shown, _, keyId, rfl⟩
  cases found.symm.trans shown
  refine ⟨_, Setup.rules_settingsWithRule .., ?_⟩
  rw [Setup.ruleToAdd, derived]
  exact NewRule.choosePriority_of_placed fine fun index rule => placed.priority_eq fine

/-- Take settings that pass their check, as all do that are read from a document. A rule that is
given no priority gets the default one if it is the first, and otherwise the highest one there
is plus the offset, or the end of the range if that comes before. This is in range, no less
than any other priority, and above them all unless the offset is 0 or the range has ended. So
no handle that was ever handed out leads to a priority out of range. If a bucket without rules
gets rules only from setups with these settings and no given priority, whatever else happens
in between, its rules rise from the default priority by one offset each, up to the end of the
range. -/
theorem derived_priorities_in_range :
    (∀ text file, Settings.ofToml text = .ok file → file.setup.problem? = none) ∧
    ∀ settings : SetupSettings, settings.problem? = none →
      (∀ rules : List Rule, (∀ rule ∈ rules, rule.WellFormed) →
        let priority := NewRule.choosePriority settings rules none
        (rules = [] → priority = settings.defaultPriority) ∧
        (∀ highest, NewRule.highestPriority rules = some highest →
          priority = min (NewRule.saturatingAdd highest settings.priorityOffset)
            Rule.highestPriority) ∧
        (∀ highest, (rules.map fun rule => rule.priority.toNat).max? = some highest →
          priority.toNat = min (highest + settings.priorityOffset.toNat) 2147483647 ∧
          ((∀ rule ∈ rules, rule.priority < priority) ↔
            settings.priorityOffset ≠ 0 ∧ highest ≠ 2147483647)) ∧
        (1 ≤ priority.toNat ∧ priority.toNat ≤ 2147483647) ∧
        ∀ rule ∈ rules, rule.priority ≤ priority) ∧
      (∀ ids requests, ∀ source ∈ ((start ids).run requests).handles,
        ∀ destination wished accounts priority, wished.priority = none →
          ((Setup.setupSource Accounts.gateway settings source destination wished).outcome
            accounts).1 ≠ .error (.invalidReplication (.priorityOutOfRange priority))) ∧
      ∀ session account id bucket requests, Reached (fun _ _ => True) session →
        session.accounts.bucket? account id = some bucket → bucket.rules = [] →
        session.Follows (PlacesOrKeeps settings account id) requests →
        (session.run requests).accounts.IdsDistinct →
        UpdatesBelow (session.run requests).versions (UInt64.size - 1) →
        ∃ last, (session.run requests).accounts.bucket? account id = some last ∧
          (∀ index rule, last.rules[index]? = some rule →
            rule.priority.toNat = min (settings.defaultPriority.toNat +
              index * settings.priorityOffset.toNat) 2147483647) ∧
          ∀ source ∈ (session.run requests).handles,
            source.account = account → source.bucket.id = id →
            ∀ destination wished handle, wished.priority = none →
              ((Setup.setupSource Accounts.gateway settings source destination wished).outcome
                (session.run requests).accounts).1 = .ok handle →
              ∃ rule, handle.bucket.rules = last.rules ++ [rule] ∧
                rule.priority.toNat = min (settings.defaultPriority.toNat +
                  last.rules.length * settings.priorityOffset.toNat) 2147483647 := by
  refine ⟨fun text file => Settings.problem?_of_ofToml, fun settings fine => ⟨?_, ?_, ?_⟩⟩
  · intro rules wellFormed priority
    refine ⟨?_, fun highest => NewRule.choosePriority_eq_saturating, fun highest isHighest =>
      ⟨NewRule.choosePriority_toNat isHighest, NewRule.lt_choosePriority_iff wellFormed isHighest⟩,
      NewRule.choosePriority_bounded wellFormed fine,
      fun rule => NewRule.le_choosePriority wellFormed⟩
    rintro rfl
    rfl
  · intro ids requests source held destination wished accounts priority derived
    have valid := ((valid_start ids).run requests).handed source held
    exact Setup.setupSource_in_range valid fine derived priority
  · intro session account id bucket requests reached found empty follows distinct few
    have orderly : (session.run requests).chronicle.Orderly := ⟨distinct, few⟩
    have sound := reached.sound ((run_continued session requests).orderly orderly)
    have placed : session.accounts.Placed settings account id :=
      ⟨[], by rw [Accounts.rules?, found, Option.map_some, empty], .nil⟩
    rcases run_placed sound follows orderly placed with ⟨⟨rules, has, placedLast⟩, soundLast⟩
    rcases Option.map_eq_some_iff.1 has with ⟨last, foundLast, rfl⟩
    exact ⟨last, foundLast, placed_priorities soundLast orderly fine foundLast placedLast⟩

/-! ## A tour with a large offset -/

def steepSettings : SetupSettings := { SetupSettings.default with priorityOffset := 2000000000 }

def steepText : String := "setup.priority_offset = 2_000_000_000"

theorem steepText_read : Settings.ofToml steepText = .ok ⟨.default, steepSettings⟩ := by
  have parsed : (Settings.ofToml steepText).toOption = some ⟨.default, steepSettings⟩ := by
    decide +kernel
  rcases result : Settings.ofToml steepText with problem | file
  · rw [result] at parsed
    cases parsed
  · rw [result] at parsed
    exact congrArg Except.ok (Option.some.inj parsed)

def steepDestination : Handle := ⟨"east", .new "bucket-2" "backup"⟩

def steepSource : (setups : Nat) → Handle
  | 0 => ⟨"west", .new "bucket-1" "photos"⟩
  | setups + 1 =>
    let earlier := (steepSource setups).bucket
    ⟨"west", earlier.updated (Setup.settingsWithRule earlier "key-1"
      (Setup.ruleToAdd steepSettings earlier steepDestination.bucket .derived))⟩

def steepBeginning : List Request :=
  [.createBucket "west" "photos", .createBucket "east" "backup"]

def steepRequests : List Request :=
  [.setupBoth steepSettings (steepSource 0) steepDestination .derived,
    .findBucket "west" "bucket-1",
    .setupSource steepSettings (steepSource 1) steepDestination .derived]

def steepTour : Session := (start tourIds).run (steepBeginning ++ steepRequests)

theorem derived_priorities_in_range_steepTour :
    Settings.ofToml steepText = .ok ⟨.default, steepSettings⟩ ∧
      steepSettings.problem? = none ∧
      (NewRule.choosePriority steepSettings [.new "backup" "bucket-2"] none).toNat = 2000000128 ∧
      steepSource 2 ∈ steepTour.handles ∧
      (∀ priority, ((Setup.setupSource Accounts.gateway steepSettings (steepSource 2)
        steepDestination .derived).outcome steepTour.accounts).1 ≠
        .error (.invalidReplication (.priorityOutOfRange priority))) ∧
      Reached (fun _ _ => True) ((start tourIds).run steepBeginning) ∧
      ((start tourIds).run steepBeginning).Follows
        (PlacesOrKeeps steepSettings "west" "bucket-1") steepRequests ∧
      steepTour.accounts.IdsDistinct ∧ UpdatesBelow steepTour.versions (UInt64.size - 1) ∧
      ∃ last handle rule,
        steepTour.accounts.bucket? "west" "bucket-1" = some last ∧ last.rules.length = 2 ∧
        (∀ second, last.rules[1]? = some second → second.priority.toNat = 2000000128) ∧
        ((Setup.setupSource Accounts.gateway steepSettings (steepSource 2) steepDestination
          .derived).outcome steepTour.accounts).1 = .ok handle ∧
        handle.bucket.rules = last.rules ++ [rule] ∧ rule.priority.toNat = 2147483647 := by
  have fine := derived_priorities_in_range.1 _ _ steepText_read
  rcases derived_priorities_in_range.2 steepSettings fine with ⟨arithmetic, refusals, runs⟩
  have wellFormed : ∀ rule ∈ [Rule.new "backup" "bucket-2"], rule.WellFormed := by
    intro rule listed
    cases List.mem_singleton.1 listed
    exact (Rule.problem?_eq_none_iff _).1 (by decide)
  have second := ((arithmetic _ wellFormed).2.2.1 128 (by decide)).1
  have held : steepSource 2 ∈ steepTour.handles := by decide
  have reached : Reached (fun _ _ => True) ((start tourIds).run steepBeginning) :=
    .run (.start tourIds) (by decide)
  have follows : ((start tourIds).run steepBeginning).Follows
      (PlacesOrKeeps steepSettings "west" "bucket-1") steepRequests := by
    decide
  have distinct : steepTour.accounts.IdsDistinct := Accounts.idsDistinct_of_entries (by decide)
  have few : UpdatesBelow steepTour.versions (UInt64.size - 1) := .of_length (by decide)
  have found : ((start tourIds).run steepBeginning).accounts.bucket? "west" "bucket-1" =
      some (.new "bucket-1" "photos") := by
    decide
  have whole : ((start tourIds).run steepBeginning).run steepRequests = steepTour :=
    (run_append (start tourIds) steepBeginning steepRequests).symm
  rw [← whole] at distinct few
  rcases runs _ "west" "bucket-1" _ steepRequests reached found rfl follows distinct few with
    ⟨last, foundLast, placed, next⟩
  rw [whole] at distinct few foundLast next
  have two : (steepTour.accounts.bucket? "west" "bucket-1").map (·.rules.length) = some 2 := by
    decide
  rw [foundLast] at two
  have length : last.rules.length = 2 := Option.some.inj two
  have succeeds : ((Setup.setupSource Accounts.gateway steepSettings (steepSource 2)
      steepDestination .derived).outcome steepTour.accounts).1.toOption.isSome = true := by
    decide
  rcases result : ((Setup.setupSource Accounts.gateway steepSettings (steepSource 2)
      steepDestination .derived).outcome steepTour.accounts).1 with error | handle
  · rw [result] at succeeds
    cases succeeds
  · rcases next _ held rfl rfl _ _ handle rfl result with ⟨rule, added, priority⟩
    rw [length] at priority
    exact ⟨steepText_read, fine, second, held, fun priority => result ▸
      refusals _ _ _ held _ _ _ priority rfl, reached, follows, distinct, few, last, handle, rule,
      foundLast, length, fun second has => placed 1 second has, rfl, added, priority⟩

end Session

end BucketReplication
