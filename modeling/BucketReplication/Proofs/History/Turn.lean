import BucketReplication.Proofs.History.DestinationSetup
import BucketReplication.Proofs.History.Linkage
import BucketReplication.Proofs.Setup.LiveKeys

/-! # Turns

A setup takes turns on accounts, one for each of its sides. If it goes by known handles, every
turn adds to the live keys of its bucket what it creates for it, and that is a key only if
there was none. -/

namespace BucketReplication

/-- One side of a setup, carried out on accounts. -/
structure Turn where
  side : Setup.Side
  before : Accounts
  outcome : Outcome Accounts Handle

namespace Turn

def ofSource (settings : SetupSettings) (source destination : Handle) (wished : NewRule)
    (before : Accounts) : Turn where
  side := Setup.sourceSide settings source destination wished
  before := before
  outcome :=
    (Setup.setupSource Accounts.gateway settings source destination wished).outcome before

def ofDestination (settings : SetupSettings) (sourceKeyId : String) (destination : Handle)
    (before : Accounts) : Turn where
  side := Setup.destinationSide settings sourceKeyId destination
  before := before
  outcome :=
    (Setup.setupDestination Accounts.gateway settings sourceKeyId destination).outcome before

def after (turn : Turn) : Accounts := turn.outcome.2

def keysCreated (turn : Turn) (role : KeyRole) (account id : String) : List ApplicationKey :=
  match turn.outcome with
  | (.error _, _) => []
  | (.ok _, after) =>
    if turn.side.role = role ∧ turn.side.handle.account = account ∧
        turn.side.handle.bucket.id = id then
      (after.account account).keys.filter fun key => key ∉ (turn.before.account account).keys
    else []

/-- The turn was carried out as its side does it, by a handle that shows what is stored if
the turn succeeded. -/
structure Proper (turn : Turn) : Prop where
  lawful : turn.side.Lawful
  carried : turn.side.Carried turn.before turn.outcome
  shown : ∀ handle, turn.outcome.1 = .ok handle →
    turn.before.bucket? turn.side.handle.account turn.side.handle.bucket.id =
      some turn.side.handle.bucket
  listed : turn.before.Listed
  grows : turn.before.Grows turn.after
  listedAfter : turn.after.Listed
  distinct : turn.after.IdsDistinct

variable {turn : Turn} {role : KeyRole} {account id : String}

theorem Proper.settles (proper : turn.Proper) {handle : Handle} {after : Accounts}
    (succeeded : turn.outcome = (.ok handle, after))
    (supplied : turn.before.Supplied turn.side.role turn.side.handle.account
      turn.side.handle.bucket.id) :
    ∃ key, turn.side.Settles turn.before key handle after := by
  have carried := proper.carried
  have distinct := proper.distinct
  rw [Turn.after] at distinct
  rw [succeeded] at carried distinct
  apply carried.settles proper.lawful ?_ supplied proper.listed distinct
  exact proper.shown handle (congrArg Prod.fst succeeded)

theorem new_keys {accounts : Accounts} {key : ApplicationKey} (listed : accounts.Listed)
    (new : key.id ∉ (accounts.account account).createdKeys) :
    (((accounts.account account).keys ++ [key]).filter fun other =>
      other ∉ (accounts.account account).keys) = [key] := by
  have absent : key ∉ (accounts.account account).keys := by
    intro present
    have found : (accounts.key? account key.id).isSome = true := by
      rw [Accounts.key?, Account.key?, List.find?_isSome]
      exact ⟨key, present, by simp⟩
    rcases Option.isSome_iff_exists.1 found with ⟨stored, found⟩
    exact new (listed.key found)
  rw [List.filter_append, List.filter_eq_nil_iff.2 (by simp), List.nil_append]
  simp [absent]

theorem Proper.adds_live (proper : turn.Proper)
    (supplied : turn.before.Supplied role account id) :
    turn.before.liveKeys role account id ++ turn.keysCreated role account id =
        turn.after.liveKeys role account id ∧
      turn.after.Supplied role account id := by
  have carried := proper.carried
  have distinct := proper.distinct
  have shown := proper.shown
  rw [keysCreated]
  rcases result : turn.outcome with ⟨error | handle, accounts⟩
  · have same : turn.after = accounts := congrArg Prod.snd result
    rw [result] at carried
    rw [same] at distinct ⊢
    rw [List.append_nil, eq_comm]
    exact carried.elsewhere proper.lawful nofun supplied distinct nofun
  · have same : turn.after = accounts := congrArg Prod.snd result
    dsimp only
    by_cases here : turn.side.role = role ∧ turn.side.handle.account = account ∧
      turn.side.handle.bucket.id = id
    · rcases here with ⟨rfl, rfl, rfl⟩
      rcases proper.settles result supplied with ⟨key, settles⟩
      have suppliedAfter := settles.supplied proper.lawful supplied
        (same ▸ proper.grows) (same ▸ proper.listedAfter)
      rw [if_pos ⟨rfl, rfl, rfl⟩, same, settles.live]
      refine ⟨?_, suppliedAfter⟩
      by_cases none : turn.before.liveKeys turn.side.role turn.side.handle.account
        turn.side.handle.bucket.id = []
      · rcases settles.renewed none with ⟨new, keys⟩
        rw [none, keys, new_keys proper.listed new, List.nil_append]
      · rcases settles.kept none with ⟨one, keys⟩
        rw [one, keys, List.filter_eq_nil_iff.2 (by simp), List.append_nil]
    · rw [result] at carried shown
      rw [same] at distinct ⊢
      rw [if_neg here, List.append_nil, eq_comm]
      exact carried.elsewhere proper.lawful (fun _ _ => shown handle rfl) supplied distinct
        fun _ _ => here

inductive Sequence : Accounts → List Turn → Accounts → Prop where
  | nil (accounts : Accounts) : Sequence accounts [] accounts
  | cons {turn : Turn} {rest : List Turn} {last : Accounts} (proper : turn.Proper)
      (later : Sequence turn.after rest last) : Sequence turn.before (turn :: rest) last

namespace Sequence

variable {turns : List Turn} {first last : Accounts}

theorem adds_live (sequence : Sequence first turns last)
    (supplied : first.Supplied role account id) :
    (first.liveKeys role account id ++
        turns.flatMap fun turn => turn.keysCreated role account id) =
        last.liveKeys role account id ∧
      last.Supplied role account id := by
  induction sequence with
  | nil accounts => exact ⟨List.append_nil _, supplied⟩
  | @cons turn rest last proper later induction =>
      rcases proper.adds_live supplied with ⟨adds, suppliedAfter⟩
      rw [List.flatMap_cons, ← List.append_assoc, adds]
      exact induction suppliedAfter

theorem proper_of_mem (sequence : Sequence first turns last)
    (supplied : ∀ role account id, first.Supplied role account id) {turn : Turn}
    (taken : turn ∈ turns) :
    turn.Proper ∧ ∀ role account id, turn.before.Supplied role account id := by
  induction sequence with
  | nil accounts => cases taken
  | @cons head rest last proper later induction =>
      rcases List.mem_cons.1 taken with rfl | inRest
      · exact ⟨proper, supplied⟩
      · apply induction _ inRest
        exact fun role account id => (proper.adds_live (supplied role account id)).2

end Sequence

end Turn

/-! ## The turns of a request -/

def Request.turns (accounts : Accounts) : Request → List Turn
  | .setupSource settings source destination wished =>
    [.ofSource settings source destination wished accounts]
  | .setupDestination settings sourceKeyId destination =>
    [.ofDestination settings sourceKeyId destination accounts]
  | .setupBoth settings source destination wished =>
    let first := Turn.ofSource settings source destination wished accounts
    match first.outcome with
    | (.ok newSource, between) =>
      [first, .ofDestination settings (newSource.bucket.sourceKeyId.getD "") destination between]
    | (.error _, _) => [first]
  | _ => []

namespace Chronicle

variable {chronicle : Chronicle} {used : Handle → Prop} {count : Nat}

theorem shown_of_carried {side : Setup.Side} {handle : Handle} {after : Accounts}
    (coherent : chronicle.Coherent) (orderly : chronicle.Orderly)
    (known : chronicle.Known side.handle count)
    (carried : side.Carried chronicle.accounts (.ok handle, after)) :
    chronicle.accounts.bucket? side.handle.account side.handle.bucket.id =
      some side.handle.bucket := by
  cases carried with
  | reused named found fit updated =>
      exact (shown_of_updated coherent orderly known (.inl rfl) updated).1
  | renewed unfit created updated =>
      exact (shown_of_updated coherent orderly known (.inr ⟨_, _, _, created⟩) updated).1

theorem turn_proper {later : Chronicle} {side : Setup.Side} {outcome : Outcome Accounts Handle}
    (coherent : chronicle.Coherent) (orderly : later.Orderly)
    (known : ∃ count, chronicle.Known side.handle count) (lawful : side.Lawful)
    (carried : side.Carried chronicle.accounts outcome)
    (writes : Writes (· = side.handle) chronicle later) (same : later.accounts = outcome.2) :
    (⟨side, chronicle.accounts, outcome⟩ : Turn).Proper := by
  have continued := writes_continued writes
  have before := continued.orderly orderly
  have coherentLater := writes_coherent writes coherent orderly (by
    rintro handle rfl
    exact known)
  have grows := continued.ids
  have listed := coherentLater.listed
  have distinct := orderly.distinct
  rw [same] at grows listed distinct
  refine ⟨lawful, carried, fun handle succeeded => ?_, coherent.listed, grows, listed, distinct⟩
  rcases known with ⟨count, known⟩
  rcases outcome with ⟨result, after⟩
  cases succeeded
  exact shown_of_carried coherent before known carried

variable {settings : SetupSettings} {source destination : Handle} {wished : NewRule}
  {sourceKeyId : String}

theorem ofSource_proper (coherent : chronicle.Coherent)
    (known : ∃ count, chronicle.Known source count)
    (orderly : (chronicle.setupSource settings source destination wished).2.Orderly) :
    (Turn.ofSource settings source destination wished chronicle.accounts).Proper := by
  have moves : Moves (· = source) chronicle _ :=
    chronicle.setupSource_moves settings destination wished rfl
  exact turn_proper coherent orderly known
    (Setup.sourceSide_lawful settings source destination wished)
    (Setup.setupSource_carried settings source destination wished chronicle.accounts)
    moves.writes (accounts_recorded ..)

theorem ofDestination_proper (coherent : chronicle.Coherent)
    (known : ∃ count, chronicle.Known destination count)
    (orderly : (chronicle.setupDestination settings sourceKeyId destination).2.Orderly) :
    (Turn.ofDestination settings sourceKeyId destination chronicle.accounts).Proper := by
  have moves : Moves (· = destination) chronicle _ :=
    chronicle.setupDestination_moves settings sourceKeyId rfl
  exact turn_proper coherent orderly known
    (Setup.destinationSide_lawful settings sourceKeyId destination)
    (Setup.setupDestination_carried settings sourceKeyId destination chronicle.accounts)
    moves.writes (accounts_recorded ..)

theorem setupSource_sequence (coherent : chronicle.Coherent)
    (known : ∃ count, chronicle.Known source count)
    (orderly : (chronicle.setupSource settings source destination wished).2.Orderly) :
    Turn.Sequence chronicle.accounts
      [.ofSource settings source destination wished chronicle.accounts]
      (chronicle.setupSource settings source destination wished).2.accounts := by
  rw [setupSource, accounts_recorded]
  exact .cons (ofSource_proper coherent known orderly) (.nil _)

theorem setupDestination_sequence (coherent : chronicle.Coherent)
    (known : ∃ count, chronicle.Known destination count)
    (orderly : (chronicle.setupDestination settings sourceKeyId destination).2.Orderly) :
    Turn.Sequence chronicle.accounts
      [.ofDestination settings sourceKeyId destination chronicle.accounts]
      (chronicle.setupDestination settings sourceKeyId destination).2.accounts := by
  rw [setupDestination, accounts_recorded]
  exact .cons (ofDestination_proper coherent known orderly) (.nil _)

theorem setupBoth_sequence (coherent : chronicle.Coherent)
    (knownSource : ∃ count, chronicle.Known source count)
    (knownDestination : ∃ count, chronicle.Known destination count)
    (orderly : (chronicle.setupBoth settings source destination wished).2.Orderly) :
    Turn.Sequence chronicle.accounts
      ((Request.setupBoth settings source destination wished).turns chronicle.accounts)
      (chronicle.setupBoth settings source destination wished).2.accounts := by
  rw [setupBoth_after] at orderly ⊢
  rcases result : (Setup.setupSource Accounts.gateway settings source destination wished).outcome
    chronicle.accounts with ⟨error | newSource, between⟩
  · rw [result] at orderly
    have one : (Request.setupBoth settings source destination wished).turns chronicle.accounts =
        [.ofSource settings source destination wished chronicle.accounts] := by
      simp only [Request.turns, Turn.ofSource, result]
    rw [one]
    exact setupSource_sequence coherent knownSource orderly
  · rw [result] at orderly
    have reached : (chronicle.setupSource settings source destination wished).2.accounts =
        between := by
      rw [setupSource, accounts_recorded, result]
    have two : (Request.setupBoth settings source destination wished).turns chronicle.accounts =
        [.ofSource settings source destination wished chronicle.accounts,
          .ofDestination settings (newSource.bucket.sourceKeyId.getD "") destination
            (chronicle.setupSource settings source destination wished).2.accounts] := by
      simp only [Request.turns, Turn.ofSource, result, reached]
    -- The destination side goes by a handle that is still known after the source side.
    have sourceMoves : Moves (· = source) chronicle _ :=
      chronicle.setupSource_moves settings destination wished rfl
    have destinationMoves : Moves (· = destination) _ _ := setupDestination_moves
      (chronicle.setupSource settings source destination wished).2 settings
      (newSource.bucket.sourceKeyId.getD "") rfl
    have orderlyBetween := (writes_continued destinationMoves.writes).orderly orderly
    have coherentBetween := writes_coherent sourceMoves.writes coherent orderlyBetween (by
      rintro handle rfl
      exact knownSource)
    rcases knownDestination with ⟨count, known⟩
    have knownBetween := (writes_continued sourceMoves.writes).known known
    rw [two]
    refine .cons (ofSource_proper coherent knownSource orderlyBetween) ?_
    rw [Turn.after, Turn.ofSource, ← accounts_recorded]
    exact setupDestination_sequence coherentBetween ⟨count, knownBetween⟩ orderly

end Chronicle

end BucketReplication
