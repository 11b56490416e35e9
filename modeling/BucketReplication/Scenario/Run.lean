import BucketReplication.Scenario.Command

/-! # Running a scenario

The commands are carried out one after the other. A command that fails changes
no handle, but what it did to the accounts before it failed stays done. -/

namespace BucketReplication.Scenario

/-- The accounts behind their faults, and the handles stored so far. -/
structure World where
  backend : Faulty Accounts
  handles : List (String × Handle)

structure Report where
  outcome : Except Failure Answer
  events : List Event
  metrics : List Metric

namespace World

def start (ids : List String) : World :=
  ⟨⟨.empty, Accounts.start ids⟩, []⟩

def accounts (world : World) : Accounts := world.backend.backend

def withAccounts (world : World) (accounts : Accounts) : World :=
  { world with backend := { world.backend with backend := accounts } }

def changePlan (world : World) (change : FaultPlan → FaultPlan) : World :=
  { world with backend := { world.backend with plan := change world.backend.plan } }

def save (world : World) (name : Option String) (handle : Handle) : World :=
  match name with
  | none => world
  | some name => { world with handles := Account.put Prod.fst (name, handle) world.handles }

def mentionAccount (world : World) (command : Command) : World :=
  match command.account? with
  | none => world
  | some account => world.withAccounts (world.accounts.mention account)

end World

def gateway : Gateway (Faulty Accounts) :=
  Accounts.gateway.withFaults

def Report.quiet (outcome : Except Failure Answer) : Report := ⟨outcome, [], []⟩

/-- Carry out a procedure. Its result says what to answer and which handles to
store. -/
def carryOut {α : Type} (procedure : Procedure (Faulty Accounts) α)
    (finish : α → World → Answer × World) (world : World) : Report × World :=
  let (result, progress) := procedure.start world.backend
  let reached := { world with backend := progress.backend }
  match result with
  | .error error => (⟨.error (.error error), progress.events, progress.metrics⟩, reached)
  | .ok value =>
    let (answer, next) := finish value reached
    (⟨.ok answer, progress.events, progress.metrics⟩, next)

def finishHandle (saveAs : Option String) (handle : Handle) (world : World) :
    Answer × World :=
  (.handle handle, world.save saveAs handle)

def withHandle (world : World) (name : String) (next : Handle → Report × World) :
    Report × World :=
  match world.handles.lookup name with
  | some handle => next handle
  | none => (.quiet (.error (.unknownHandle name)), world)

def execute (settings : SetupSettings) (command : Command) (before : World) :
    Report × World :=
  let world := before.mentionAccount command
  match command with
  | .createBucket account name saveAs =>
    let (result, accounts) := world.accounts.createBucket account name
    match result with
    | .error error => (.quiet (.error (.error error)), world)
    | .ok bucket =>
      (.quiet (.ok (.bucket bucket)), (world.withAccounts accounts).save saveAs ⟨account, bucket⟩)
  | .fetch account name saveAs =>
    carryOut (Handle.fetch gateway account name) (finishHandle saveAs) world
  | .findBucket account bucketId =>
    (.quiet (.ok (.foundBucket ((world.accounts.account account).bucket? bucketId))), world)
  | .createKey account request =>
    carryOut (Procedure.call gateway account (.createKey request))
      (fun key reached => (.key key, reached)) world
  | .getKey account keyId =>
    carryOut (Procedure.call gateway account (.getKey keyId))
      (fun key reached => (.foundKey key, reached)) world
  | .deleteKey account keyId =>
    let (deleted, accounts) := world.accounts.deleteKey account keyId
    (.quiet (.ok (.foundKey deleted)), world.withAccounts accounts)
  | .countKeys account =>
    (.quiet (.ok (.count (world.accounts.account account).keyCount)), world)
  | .update name revision replication saveAs =>
    withHandle world name fun handle =>
      carryOut (handle.update gateway (revision.getD handle.bucket.revision) replication)
        (finishHandle saveAs) world
  | .updateById account bucketId revision replication =>
    carryOut (Procedure.call gateway account (.updateBucket bucketId revision replication))
      (fun bucket reached => (.bucket bucket, reached)) world
  | .setupSource source destination wished saveAs =>
    withHandle world source fun sourceHandle =>
      withHandle world destination fun destinationHandle =>
        carryOut (Setup.setupSource gateway settings sourceHandle destinationHandle wished)
          (finishHandle saveAs) world
  | .setupDestination sourceKeyId name saveAs =>
    withHandle world name fun handle =>
      carryOut (Setup.setupDestination gateway settings sourceKeyId handle)
        (finishHandle saveAs) world
  | .setupBoth source destination wished saveSourceAs saveDestinationAs =>
    withHandle world source fun sourceHandle =>
      withHandle world destination fun destinationHandle =>
        carryOut (Setup.setupBoth gateway settings sourceHandle destinationHandle wished)
          (fun (newSource, newDestination) reached =>
            (.handles newSource newDestination,
              (reached.save saveSourceAs newSource).save saveDestinationAs newDestination))
          world
  | .inspect name =>
    withHandle world name fun handle => (.quiet (.ok (.handle handle)), world)
  | .display name =>
    withHandle world name fun handle => (.quiet (.ok (.text handle.display)), world)
  | .injectFault fault => (.quiet (.ok .nothing), world.changePlan (·.add fault))
  | .clearFaults account => (.quiet (.ok .nothing), world.changePlan (·.clear account))
  | .withholdSettings account value =>
    (.quiet (.ok .nothing), world.changePlan (·.withhold account value))

def run (settings : SetupSettings) : List Command → World → List Report × World
  | [], world => ([], world)
  | command :: rest, world =>
    let (report, next) := execute settings command world
    let (reports, last) := run settings rest next
    (report :: reports, last)

end BucketReplication.Scenario
