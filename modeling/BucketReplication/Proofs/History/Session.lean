import BucketReplication.Proofs.History.Request

/-! # Sessions

Requests that are carried out one after the other, from empty accounts on. A
request that updates a bucket by a handle uses one that was handed out before,
no matter how long ago. Every handle that was handed out stays known, so it
shows a record on the way of its bucket. -/

namespace BucketReplication

structure Session where
  chronicle : Chronicle
  handed : List Snapshot
deriving DecidableEq

namespace Session

def start (ids : List String) : Session := ⟨.start ids, []⟩

def accounts (session : Session) : Accounts := session.chronicle.accounts

def versions (session : Session) : List Version := session.chronicle.versions

def handles (session : Session) : List Handle := session.handed.map Snapshot.handle

def step (session : Session) (request : Request) : Session :=
  let answer := session.chronicle.carryOut request
  ⟨answer.2, session.handed ++ answer.1⟩

def Holds (session : Session) (request : Request) : Prop :=
  ∀ handle ∈ request.written, handle ∈ session.handles

instance (session : Session) (request : Request) : Decidable (session.Holds request) :=
  inferInstanceAs (Decidable (∀ handle ∈ request.written, handle ∈ session.handles))

/-- The sessions that requests of some kind lead to. -/
inductive Reached (allowed : Chronicle → Request → Prop) : Session → Prop where
  | start (ids : List String) : Reached allowed (start ids)
  | step {session : Session} {request : Request} (earlier : Reached allowed session)
      (holds : session.Holds request) (may : allowed session.chronicle request) :
      Reached allowed (session.step request)

def run (session : Session) : List Request → Session
  | [] => session
  | request :: rest => (session.step request).run rest

def Follows (allowed : Chronicle → Request → Prop) (session : Session) :
    List Request → Prop
  | [] => True
  | request :: rest =>
    (session.Holds request ∧ allowed session.chronicle request) ∧
      (session.step request).Follows allowed rest

instance decidableFollows {allowed : Chronicle → Request → Prop}
    [∀ chronicle request, Decidable (allowed chronicle request)] (session : Session)
    (requests : List Request) : Decidable (session.Follows allowed requests) :=
  match requests with
  | [] => .isTrue trivial
  | request :: rest =>
    have : Decidable ((session.step request).Follows allowed rest) :=
      decidableFollows (session.step request) rest
    inferInstanceAs (Decidable ((session.Holds request ∧ allowed session.chronicle request) ∧
      (session.step request).Follows allowed rest))

variable {allowed : Chronicle → Request → Prop} {session : Session}

theorem Reached.run (reached : Reached allowed session) {requests : List Request}
    (follows : session.Follows allowed requests) : Reached allowed (session.run requests) := by
  induction requests generalizing session with
  | nil => exact reached
  | cons request rest induction =>
      exact induction (.step reached follows.1.1 follows.1.2) follows.2

/-! ## What holds in every session -/

/-- The chronicle is coherent, and what was handed out is known. -/
structure Sound (session : Session) : Prop where
  coherent : session.chronicle.Coherent
  known : ∀ snapshot ∈ session.handed,
    session.chronicle.Known snapshot.handle snapshot.count

theorem sound_start (ids : List String) : Sound (start ids) :=
  ⟨Chronicle.coherent_start ids, nofun⟩

theorem Sound.known_handle (sound : session.Sound) {handle : Handle}
    (held : handle ∈ session.handles) : ∃ count, session.chronicle.Known handle count := by
  rcases List.mem_map.1 held with ⟨snapshot, handed, rfl⟩
  exact ⟨snapshot.count, sound.known snapshot handed⟩

theorem step_continued (session : Session) (request : Request) :
    session.chronicle.Extends (session.step request).chronicle :=
  Chronicle.writes_continued (session.chronicle.carryOut_moves request).writes

theorem run_append (session : Session) (earlier later : List Request) :
    session.run (earlier ++ later) = (session.run earlier).run later := by
  induction earlier generalizing session with
  | nil => rfl
  | cons request rest induction => exact induction (session.step request)

theorem follows_append {earlier later : List Request} :
    session.Follows allowed (earlier ++ later) ↔
      session.Follows allowed earlier ∧ (session.run earlier).Follows allowed later := by
  induction earlier generalizing session with
  | nil => exact ⟨fun rest => ⟨trivial, rest⟩, And.right⟩
  | cons request rest induction =>
      exact (and_congr_right fun _ => induction).trans and_assoc.symm

theorem run_continued (session : Session) (requests : List Request) :
    session.chronicle.Extends (session.run requests).chronicle := by
  induction requests generalizing session with
  | nil => exact .refl session.chronicle
  | cons request rest induction =>
      exact (step_continued session request).trans (induction (session.step request))

theorem Sound.step {request : Request} (sound : session.Sound) (holds : session.Holds request)
    (orderly : (session.step request).chronicle.Orderly) : (session.step request).Sound := by
  have moves := session.chronicle.carryOut_moves request
  have known : ∀ handle ∈ request.written, ∃ count, session.chronicle.Known handle count :=
    fun handle written => sound.known_handle (holds handle written)
  refine ⟨Chronicle.writes_coherent moves.writes sound.coherent orderly known, ?_⟩
  intro snapshot handed
  rcases List.mem_append.1 handed with before | new
  · exact (step_continued session request).known (sound.known snapshot before)
  · rcases moves.current snapshot new with ⟨moment, before, after, current, counted⟩
    have later := Chronicle.writes_continued after
    have coherent := Chronicle.writes_coherent before sound.coherent (later.orderly orderly) known
    rw [counted]
    exact later.known (coherent.known current)

theorem Reached.sound (reached : Reached allowed session)
    (orderly : session.chronicle.Orderly) : session.Sound := by
  induction reached with
  | start ids => exact sound_start ids
  | @step session request earlier holds may induction =>
      have before := (step_continued session request).orderly orderly
      exact (induction before).step holds orderly

theorem Reached.orderly_of_low (reached : Reached allowed session)
    (distinct : session.accounts.IdsDistinct) (low : session.chronicle.RevisionsLow) :
    session.chronicle.Orderly := by
  refine ⟨distinct, UpdatesBelow.mono ?_ (Nat.le_succ (UInt64.size - 2))⟩
  induction reached with
  | start ids => exact (Chronicle.coherent_start ids).few_of_low low
  | @step session request earlier holds may induction =>
      have continued := step_continued session request
      have distinctBefore := continued.ids.idsDistinct distinct
      have few := induction distinctBefore (continued.revisionsLow low)
      have sound := earlier.sound ⟨distinctBefore, few.mono (Nat.le_succ _)⟩
      exact Chronicle.writes_few_of_low (session.chronicle.carryOut_moves request).writes
        sound.coherent distinct low fun handle written => sound.known_handle (holds handle written)

/-- What every request of a kind keeps holds in every session, provided that no
id is given out twice and no bucket is updated too often. -/
theorem Reached.invariant (reached : Reached allowed session) (holds : Chronicle → Prop)
    (orderly : session.chronicle.Orderly) (initial : ∀ ids, holds (.start ids))
    (kept : ∀ (session : Session) (request : Request), session.Sound →
      session.Holds request → allowed session.chronicle request →
      (session.step request).chronicle.Orderly → holds session.chronicle →
      holds (session.step request).chronicle) : holds session.chronicle := by
  induction reached with
  | start ids => exact initial ids
  | @step session request earlier held may induction =>
      have before := (step_continued session request).orderly orderly
      exact kept session request (earlier.sound before) held may orderly (induction before)

/-! ## A tour

A bucket is set up to replicate into one on another account. -/

def tourIds : List String := ["bucket-1", "bucket-2", "key-1", "key-2"]

def tourRequests : List Request :=
  [.createBucket "west" "photos", .createBucket "east" "backup",
    .setupBoth .default ⟨"west", .new "bucket-1" "photos"⟩ ⟨"east", .new "bucket-2" "backup"⟩
      .derived]

def tour : Session := (start tourIds).run tourRequests

theorem tour_distinct : tour.accounts.IdsDistinct :=
  Accounts.idsDistinct_of_entries (by decide)

theorem tour_few : UpdatesBelow tour.versions (UInt64.size - 1) :=
  .of_length (by decide)

end Session

end BucketReplication
