import BucketReplication.Proofs.Json.Layout
import BucketReplication.Proofs.Json.Tree

/-! # The texts of a value

A text spells a value when it spells the tokens of the value. The tree of such a text
is the value; and a text whose tree is whole spells its tree, since the machine keeps
every token that it takes. -/

namespace BucketReplication.Json

open Document (Value Items Members)

/-! ## What the machine has taken -/

def takenItems : List Value → List Token
  | [] => []
  | value :: before => takenItems before ++ (tokensOf value ++ [.comma])

def takenMembers : List (Option String × Value) → List Token
  | [] => []
  | (name, value) :: before =>
    takenMembers before ++ .text name :: .colon :: (tokensOf value ++ [.comma])

def Frame.taken : Frame → List Token
  | .item before => .openSequence :: takenItems before
  | .member before name => .openRecord :: (takenMembers before ++ [.text name, .colon])

/-- The tokens of what is open around a value. -/
def takenAround : List Frame → List Token
  | [] => []
  | frame :: stack => takenAround stack ++ frame.taken

def State.taken : State → List Token
  | .needsValue stack => takenAround stack
  | .needsItem stack => takenAround stack ++ [.openSequence]
  | .needsFirstName stack => takenAround stack ++ [.openRecord]
  | .needsName before stack => takenAround stack ++ .openRecord :: takenMembers before
  | .needsColon before name stack =>
    takenAround stack ++ .openRecord :: (takenMembers before ++ [.text name])
  | .holds value stack => takenAround stack ++ tokensOf value

theorem tokensOfItems_precede (before : List Value) (value : Value) (rest : Items) :
    tokensOfItems true (.precede before (.item value rest)) =
      takenItems before ++ tokensOfItems true (.item value rest) := by
  induction before generalizing value rest with
  | nil => rfl
  | cons nearest before induction =>
      refine (induction nearest (.item value rest)).trans ?_
      simp [takenItems, tokensOfItems]

theorem tokensOfMembers_precede (before : List (Option String × Value)) (name : Option String)
    (value : Value) (rest : Members) :
    tokensOfMembers true (.precede before (.member name value rest)) =
      takenMembers before ++ tokensOfMembers true (.member name value rest) := by
  induction before generalizing name value rest with
  | nil => rfl
  | cons nearest before induction =>
      refine (induction nearest.1 nearest.2 (.member name value rest)).trans ?_
      simp [takenMembers, tokensOfMembers]

/-! ## What the machine holds -/

def Frame.Spellable : Frame → Prop
  | .item before => ∀ value ∈ before, IsSpellable value
  | .member before _ => ∀ member ∈ before, IsSpellable member.2

def State.Spellable : State → Prop
  | .needsValue stack => ∀ frame ∈ stack, frame.Spellable
  | .needsItem stack => ∀ frame ∈ stack, frame.Spellable
  | .needsFirstName stack => ∀ frame ∈ stack, frame.Spellable
  | .needsName before stack =>
    (∀ member ∈ before, IsSpellable member.2) ∧ ∀ frame ∈ stack, frame.Spellable
  | .needsColon before _ stack =>
    (∀ member ∈ before, IsSpellable member.2) ∧ ∀ frame ∈ stack, frame.Spellable
  | .holds value stack => IsSpellable value ∧ ∀ frame ∈ stack, frame.Spellable

theorem areItemsSpellable_precede {before : List Value} {rest : Items}
    (spellable : ∀ value ∈ before, IsSpellable value) (others : AreItemsSpellable rest) :
    AreItemsSpellable (.precede before rest) := by
  induction before generalizing rest with
  | nil => exact others
  | cons nearest before induction =>
      rw [List.forall_mem_cons] at spellable
      exact induction spellable.2 ⟨spellable.1, others⟩

theorem areMembersSpellable_precede {before : List (Option String × Value)} {rest : Members}
    (spellable : ∀ member ∈ before, IsSpellable member.2) (others : AreMembersSpellable rest) :
    AreMembersSpellable (.precede before rest) := by
  induction before generalizing rest with
  | nil => exact others
  | cons nearest before induction =>
      rw [List.forall_mem_cons] at spellable
      exact induction spellable.2 ⟨spellable.1, others⟩

/-- The machine goes on by a token. -/
structure Takes (state : State) (token : Token) (next : State) : Prop where
  unbroken : token ≠ .broken
  taken : next.taken = state.taken ++ [token]
  spellable : state.Spellable → next.Spellable

theorem takes_beginValue {token : Token} {stack : List Frame} {next : State}
    (begun : State.beginValue token stack = some next) : Takes (.needsValue stack) token next := by
  unfold State.beginValue at begun
  split at begun
  · cases begun
    exact ⟨nofun, rfl, id⟩
  · cases begun
    exact ⟨nofun, rfl, id⟩
  · rcases Option.map_eq_some_iff.1 begun with ⟨value, scalar, rfl⟩
    cases token <;> cases scalar
    all_goals exact ⟨nofun, by simp [State.taken, tokensOf], fun spellable => ⟨trivial, spellable⟩⟩

theorem takes_step {state next : State} {token : Token} (stepped : state.step token = some next) :
    Takes state token next := by
  unfold State.step at stepped
  split at stepped
  case h_1 => exact takes_beginValue stepped
  case h_3 stack _ =>
    -- The first item begins like a value in a frame that is still empty.
    have begun := takes_beginValue stepped
    refine ⟨begun.unbroken, begun.taken, fun spellable => begun.spellable ?_⟩
    exact List.forall_mem_cons.2 ⟨nofun, spellable⟩
  case h_8 value before stack =>
    cases stepped
    refine ⟨nofun, by simp [State.taken, takenAround, Frame.taken, takenItems], ?_⟩
    rintro ⟨spellable, around⟩
    rw [List.forall_mem_cons] at around
    exact List.forall_mem_cons.2 ⟨List.forall_mem_cons.2 ⟨spellable, around.1⟩, around.2⟩
  case h_9 value before stack =>
    cases stepped
    refine ⟨nofun, ?_, ?_⟩
    · have inside := tokensOfItems_precede before value .closed
      simp [State.taken, takenAround, Frame.taken, tokensOf, inside, tokensOfItems]
    · rintro ⟨spellable, around⟩
      rw [List.forall_mem_cons] at around
      exact ⟨areItemsSpellable_precede around.1 ⟨spellable, trivial⟩, around.2⟩
  case h_10 value before name stack =>
    cases stepped
    refine ⟨nofun, by simp [State.taken, takenAround, Frame.taken, takenMembers], ?_⟩
    rintro ⟨spellable, around⟩
    rw [List.forall_mem_cons] at around
    exact ⟨List.forall_mem_cons.2 ⟨spellable, around.1⟩, around.2⟩
  case h_11 value before name stack =>
    cases stepped
    refine ⟨nofun, ?_, ?_⟩
    · have inside := tokensOfMembers_precede before name value .closed
      simp [State.taken, takenAround, Frame.taken, tokensOf, inside, tokensOfMembers]
    · rintro ⟨spellable, around⟩
      rw [List.forall_mem_cons] at around
      exact ⟨areMembersSpellable_precede around.1 ⟨spellable, trivial⟩, around.2⟩
  case h_7 before name stack =>
    cases stepped
    refine ⟨nofun, by simp [State.taken, takenAround, Frame.taken], fun spellable => ?_⟩
    exact List.forall_mem_cons.2 spellable
  case h_5 stack name =>
    cases stepped
    exact ⟨nofun, by simp [State.taken, takenMembers], fun spellable => ⟨nofun, spellable⟩⟩
  case h_6 before stack name =>
    cases stepped
    exact ⟨nofun, by simp [State.taken], id⟩
  case h_12 => cases stepped
  all_goals
    cases stepped
    exact ⟨nofun, by simp [State.taken, tokensOf, tokensOfItems, tokensOfMembers],
      fun spellable => ⟨trivial, spellable⟩⟩

theorem run_taken {state : State} {tokens : List Token} (whole : (run state tokens).isWhole = true)
    (spellable : state.Spellable) :
    .broken ∉ tokens ∧ state.taken ++ tokens = tokensOf (run state tokens).value ∧
      IsSpellable (run state tokens).value := by
  fun_induction run state tokens with
  | case1 tokens value =>
      obtain rfl := List.isEmpty_iff.1 whole
      exact ⟨nofun, List.append_nil _, spellable.1⟩
  | case2 => cases whole
  | case3 state _ token rest next stepped induction =>
      have takes := takes_step stepped
      rcases induction whole (takes.spellable spellable) with ⟨unbroken, taken, held⟩
      refine ⟨?_, ?_, held⟩
      · rw [List.mem_cons, not_or]
        exact ⟨takes.unbroken.symm, unbroken⟩
      · rw [← taken, takes.taken, List.append_assoc]
        rfl
  | case4 => cases whole

/-! ## The texts of a value -/

/-- The text spells the value: the tokens of the value stand in it, with any white
space before, between and after them. -/
structure Spells (value : Value) (text : String) : Prop where
  spellable : IsSpellable value
  laidOut : LaidOut (tokensOf value) text.toList

/-- A text spells a value just when the value is its tree and nothing follows. -/
theorem spells_iff {value : Value} {text : String} :
    Spells value text ↔ treeOf text = ⟨value, true⟩ := by
  constructor
  · rintro ⟨spellable, laidOut⟩
    have apart : Apart (tokensOf value) := by
      have alone : Apart (tokensOf value ++ []) := apart_tokensOf value startsApart_nil .nil
      rwa [List.append_nil] at alone
    have returned := run_tokensOf value spellable [] []
    rw [List.append_nil] at returned
    rw [treeOf, laidOut.tokens_eq apart, returned, run]
    rfl
  · intro tree
    have whole : (run (.needsValue []) (tokens text.toList)).isWhole = true := by
      rw [← treeOf, tree]
    have taken := run_taken whole (List.forall_mem_nil Frame.Spellable)
    rw [← treeOf, tree] at taken
    rcases taken with ⟨unbroken, taken, spellable⟩
    refine ⟨spellable, ?_⟩
    rw [← taken]
    exact laidOut_tokens unbroken

end BucketReplication.Json
