import BucketReplication.Proofs.Accounts.KeyTotal
import BucketReplication.Proofs.Setup.Tally

/-! # Books

What was asked of accounts and counted on the way, from empty accounts on, while something
in front of them may refuse any call. The books keep what the setups said apart from what
was asked directly, and each side of the setups apart from the other. So what was counted
can be compared with the keys that there are. -/

namespace BucketReplication

structure Books where
  accounts : Accounts
  metrics : List Metric
  direct : List Exchange
  sides : KeyRole → List Exchange
  removed : List ApplicationKey

/-- What can be asked for, by whatever handles. Buckets are created and keys deleted on the
accounts themselves, all else is asked by calls. -/
inductive Entry where
  | createBucket (account name : String)
  | deleteKey (account keyId : String)
  | ask (call : CallNote)
  | setupSource (settings : SetupSettings) (source destination : Handle) (wished : NewRule)
  | setupDestination (settings : SetupSettings) (sourceKeyId : String) (destination : Handle)
  | setupBoth (settings : SetupSettings) (source destination : Handle) (wished : NewRule)

namespace Books

def blank (accounts : Accounts) : Books := ⟨accounts, [], [], fun _ => [], []⟩

def ofSetup (accounts : Accounts) (metrics : List Metric) (first second : List Exchange) :
    Books :=
  { blank accounts with
    metrics
    sides := fun
      | .source => first
      | .destination => second }

def add (books page : Books) : Books where
  accounts := page.accounts
  metrics := books.metrics ++ page.metrics
  direct := books.direct ++ page.direct
  sides role := books.sides role ++ page.sides role
  removed := books.removed ++ page.removed

variable {τ : Type}

/-- What comes of an entry. What a setup of both sides says first is what a setup of the
source alone says, and all else is said on the destination side. -/
def page (gateway : Gateway τ) (backend : τ → Accounts) (before : τ) : Entry → Books
  | .createBucket account name => blank ((backend before).createBucket account name).2
  | .deleteKey account keyId =>
    let (removed, after) := (backend before).deleteKey account keyId
    { blank after with removed := removed.toList }
  | .ask call =>
    let (answer, after) := gateway.ask call before
    { blank (backend after) with direct := [⟨call, answer⟩] }
  | .setupSource settings source destination wished =>
    let progress := ((Setup.setupSource gateway settings source destination wished).start before).2
    ofSetup (backend progress.backend) progress.metrics
      ((Setup.setupSource gateway.recording settings source destination wished).conversation before)
      []
  | .setupDestination settings sourceKeyId destination =>
    let progress :=
      ((Setup.setupDestination gateway settings sourceKeyId destination).start before).2
    ofSetup (backend progress.backend) progress.metrics []
      ((Setup.setupDestination gateway.recording settings sourceKeyId destination).conversation
        before)
  | .setupBoth settings source destination wished =>
    let progress := ((Setup.setupBoth gateway settings source destination wished).start before).2
    let first := (Setup.setupSource gateway.recording settings source destination
      wished).conversation before
    let said := (Setup.setupBoth gateway.recording settings source destination
      wished).conversation before
    ofSetup (backend progress.backend) progress.metrics first (said.drop first.length)

/-- The books that entries lead to. Between them the state of what stands in front of the
accounts may change at will. -/
inductive Reached (gateway : Gateway τ) (backend : τ → Accounts) (proper : τ → Prop) :
    Books → Prop where
  | start (ids : List String) : Reached gateway backend proper (blank (.start ids))
  | step {books : Books} {before : τ} (earlier : Reached gateway backend proper books)
      (starts : proper before) (same : backend before = books.accounts) (entry : Entry) :
      Reached gateway backend proper (books.add (page gateway backend before entry))

/-! ## What a page adds -/

def keysCreated (books : Books) : Nat :=
  (books.direct.filterMap Exchange.created?).length +
    ((books.sides .source).filterMap Exchange.created?).length +
    ((books.sides .destination).filterMap Exchange.created?).length

/-- From accounts on, the books tell of all keys that were created and deleted, and what was
counted is what was said on the sides that count it. -/
structure Fair (accounts : Accounts) (books : Books) : Prop where
  balances : Accounts.Balances books.keysCreated books.removed.length accounts books.accounts
  counted : ∀ metric, books.metrics.count metric =
    (books.sides metric.role).countP metric.counts

theorem keysCreated_add (books page : Books) :
    (books.add page).keysCreated = books.keysCreated + page.keysCreated := by
  simp only [keysCreated, add, List.filterMap_append, List.length_append]
  omega

theorem Fair.add {accounts : Accounts} {books page : Books} (earlier : Fair accounts books)
    (later : Fair books.accounts page) : Fair accounts (books.add page) where
  balances := by
    rw [keysCreated_add, Books.add, List.length_append]
    exact earlier.balances.trans later.balances
  counted metric := by
    simp only [Books.add, List.count_append, List.countP_append, earlier.counted, later.counted]

theorem Fair.blank {accounts after : Accounts} (balances : Accounts.Balances 0 0 accounts after) :
    Fair accounts (blank after) where
  balances := balances
  counted _ := rfl

section

variable {gateway : Gateway τ} {backend : τ → Accounts} {proper : τ → Prop} {before : τ}
  (fronts : gateway.Fronts Accounts.gateway backend proper) (starts : proper before)

include fronts starts

theorem answers_balances {exchanges : List Exchange} {after : τ}
    (answers : gateway.Answers before exchanges after) :
    Accounts.Balances (exchanges.filterMap Exchange.created?).length 0 (backend before)
      (backend after) :=
  Accounts.serves_balances (fronts.serves starts answers)

theorem ofSetup_fair {metrics : List Metric} {first second : List Exchange} {after : τ}
    (answers : gateway.Answers before (first ++ second) after)
    (counted : metrics =
      first.flatMap KeyRole.source.worth ++ second.flatMap KeyRole.destination.worth) :
    Fair (backend before) (ofSetup (backend after) metrics first second) where
  balances := by
    have balances := answers_balances fronts starts answers
    rw [List.filterMap_append, List.length_append] at balances
    have created : (ofSetup (backend after) metrics first second).keysCreated =
        (first.filterMap Exchange.created?).length +
          (second.filterMap Exchange.created?).length := by
      simp [keysCreated, ofSetup, blank]
    rw [created]
    exact balances
  counted metric := by
    rw [ofSetup, counted, List.count_append, KeyRole.count_flatMap_worth,
      KeyRole.count_flatMap_worth]
    cases metric.role <;> simp

theorem page_fair (entry : Entry) : Fair (backend before) (page gateway backend before entry) := by
  cases entry with
  | createBucket account name =>
      exact .blank (Accounts.createBucket_balances _ account name)
  | deleteKey account keyId =>
      exact ⟨Accounts.deleteKey_balances _ account keyId, fun _ => rfl⟩
  | ask call =>
      rcases asked : gateway.ask call before with ⟨answer, after⟩
      have balances := answers_balances fronts starts (.next asked (.done after))
      rw [page, asked]
      exact ⟨balances, fun _ => rfl⟩
  | setupSource settings source destination wished =>
      have tallies := Setup.setupSource_tallies gateway settings source destination wished
      rcases tallies.of_start before with ⟨answers, counted⟩
      apply ofSetup_fair fronts starts
      · rwa [List.append_nil]
      · rwa [List.flatMap_nil, List.append_nil]
  | setupDestination settings sourceKeyId destination =>
      have tallies := Setup.setupDestination_tallies gateway settings sourceKeyId destination
      rcases tallies.of_start before with ⟨answers, counted⟩
      exact ofSetup_fair fronts starts answers counted
  | setupBoth settings source destination wished =>
      rcases Setup.setupBoth_tallies gateway settings source destination wished before with
        ⟨later, said, answers, counted⟩
      rw [page, said, List.drop_left]
      exact ofSetup_fair fronts starts answers counted

end

variable {gateway : Gateway τ} {backend : τ → Accounts} {proper : τ → Prop} {books : Books}

theorem Reached.fair (fronts : gateway.Fronts Accounts.gateway backend proper)
    (reached : Reached gateway backend proper books) : ∃ ids, Fair (.start ids) books := by
  induction reached with
  | start ids => exact ⟨ids, .blank (.refl _)⟩
  | step earlier starts same entry induction =>
      rcases induction with ⟨ids, fair⟩
      exact ⟨ids, fair.add (same ▸ page_fair fronts starts entry)⟩

/-- Whatever was asked of accounts by whatever handles, and whichever calls were refused on
the way: the keys that there are and those that were deleted are those that were created,
directly or by setups. The setups counted each key that they created on the side that it
was for, each record that they stored on a source side, and each key that was looked up on a
destination side and no longer existed. -/
theorem metrics_agree_with_accounts (fronts : gateway.Fronts Accounts.gateway backend proper)
    (reached : Reached gateway backend proper books) (distinct : books.accounts.IdsDistinct) :
    books.accounts.keyTotal + books.removed.length =
        (books.direct.filterMap Exchange.created?).length +
          books.metrics.count (.keysCreated .source) +
          books.metrics.count (.keysCreated .destination) ∧
      (∀ role, books.metrics.count (.keysCreated role) =
        ((books.sides role).filterMap Exchange.created?).length) ∧
      books.metrics.count .rulesCreated =
        ((books.sides .source).filterMap Exchange.stored?).length ∧
      books.metrics.count .deletedKeysFound =
        ((books.sides .destination).filterMap Exchange.missing?).length := by
  rcases reached.fair fronts with ⟨ids, fair⟩
  have keys : ∀ role, books.metrics.count (.keysCreated role) =
      ((books.sides role).filterMap Exchange.created?).length := fun role => by
    rw [fair.counted, List.length_filterMap_eq_countP]
    rfl
  refine ⟨?_, keys, ?_, ?_⟩
  · have total := fair.balances.total distinct (Accounts.tidy_start ids)
    have none : (Accounts.start ids).keyTotal = 0 := rfl
    rw [keys, keys, total, none, Nat.zero_add]
    rfl
  · rw [fair.counted, List.length_filterMap_eq_countP]
    rfl
  · rw [fair.counted, List.length_filterMap_eq_countP]
    rfl

/-! ## A tour with a refusal -/

def Discloses (state : Faulty Accounts) : Prop := state.plan.withholding = []

def enter (books : Books) (faults : List Fault) (entry : Entry) : Books :=
  books.add (page Accounts.gateway.withFaults Faulty.backend ⟨⟨faults, []⟩, books.accounts⟩ entry)

def enterAll (books : Books) : List (List Fault × Entry) → Books
  | [] => books
  | (faults, entry) :: rest => (books.enter faults entry).enterAll rest

theorem Reached.enter {books : Books}
    (reached : Reached Accounts.gateway.withFaults Faulty.backend Discloses books)
    (faults : List Fault) (entry : Entry) :
    Reached Accounts.gateway.withFaults Faulty.backend Discloses (books.enter faults entry) := by
  have discloses : Discloses ⟨⟨faults, []⟩, books.accounts⟩ := rfl
  exact .step reached discloses rfl entry

theorem Reached.enterAll {books : Books} {entries : List (List Fault × Entry)}
    (reached : Reached Accounts.gateway.withFaults Faulty.backend Discloses books) :
    Reached Accounts.gateway.withFaults Faulty.backend Discloses (books.enterAll entries) := by
  induction entries generalizing books with
  | nil => exact reached
  | cons first rest induction => exact induction (reached.enter first.1 first.2)

/-- The destination refuses the update of a setup of both sides. Another setup by a handle
whose mapping names a deleted key succeeds. -/
def refusedEntries : List (List Fault × Entry) :=
  let source : Handle := ⟨"west", .new "bucket-1" "photos"⟩
  let destination := Bucket.new "bucket-2" "backup"
  let mapped := Setup.settingsWithMapping destination "key-2" "key-1"
  [([], .createBucket "west" "photos"),
    ([], .createBucket "east" "backup"),
    ([], .ask (.createKey "east" ⟨"guest", [], none, none⟩)),
    ([], .deleteKey "east" "key-1"),
    ([⟨"east", .updateBucket, 0, none, .transport "connection reset"⟩],
      .setupBoth .default source ⟨"east", destination⟩ .derived),
    ([], .setupDestination .default "key-2"
      ⟨"east", { destination with replication := some mapped }⟩)]

theorem metrics_agree_with_accounts_refusedEntries :
    let ids := ["bucket-1", "bucket-2", "key-1", "key-2", "key-3", "key-4"]
    let books := (blank (.start ids)).enterAll refusedEntries
    Accounts.gateway.withFaults.Fronts Accounts.gateway Faulty.backend Discloses ∧
      Reached Accounts.gateway.withFaults Faulty.backend Discloses books ∧
      books.accounts.IdsDistinct ∧
      books.accounts.keyTotal = 3 ∧ books.removed.length = 1 ∧
      books.metrics.count (.keysCreated .source) = 1 ∧
      books.metrics.count (.keysCreated .destination) = 2 ∧
      books.metrics.count .rulesCreated = 1 ∧
      books.metrics.count .deletedKeysFound = 1 := by
  intro ids books
  have fronts : Accounts.gateway.withFaults.Fronts Accounts.gateway Faulty.backend Discloses :=
    Gateway.withFaults_fronts Accounts.gateway
  have reached : Reached Accounts.gateway.withFaults Faulty.backend Discloses books :=
    .enterAll (.start ids)
  have distinct : books.accounts.IdsDistinct := Accounts.idsDistinct_of_entries (by decide)
  rcases metrics_agree_with_accounts fronts reached distinct with ⟨total, keys, rules, deleted⟩
  have direct : (books.direct.filterMap Exchange.created?).length = 1 := by decide +kernel
  have removed : books.removed.length = 1 := by decide +kernel
  have source : ((books.sides .source).filterMap Exchange.created?).length = 1 := by
    decide +kernel
  have destination : ((books.sides .destination).filterMap Exchange.created?).length = 2 := by
    decide +kernel
  rw [← keys] at source destination
  refine ⟨fronts, reached, distinct, by omega, removed, source, destination, ?_, ?_⟩
  · rw [rules]
    decide +kernel
  · rw [deleted]
    decide +kernel

end Books

end BucketReplication
