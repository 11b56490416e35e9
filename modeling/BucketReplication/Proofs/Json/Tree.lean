import BucketReplication.Json.Tree
import BucketReplication.Proofs.Json.Token

/-! # Reading back a printed value

The tokens of a value take the machine from the state that asks for a value to
the state that holds it, with everything that was open left open. So a printed
value is the tree of its text. -/

namespace BucketReplication.Json

open Document (Number Value Items Members)

mutual
/-- A value that a text can hold: nothing in it is broken, and no moment stands in
it. -/
def IsSpellable : Value → Prop
  | .moment => False
  | .broken => False
  | .sequence items => AreItemsSpellable items
  | .record members => AreMembersSpellable members
  | _ => True

def AreItemsSpellable : Items → Prop
  | .closed => True
  | .broken => False
  | .item value rest => IsSpellable value ∧ AreItemsSpellable rest

def AreMembersSpellable : Members → Prop
  | .closed => True
  | .broken => False
  | .member _ value rest => IsSpellable value ∧ AreMembersSpellable rest
end

mutual
theorem IsPlain.spellable : (value : Value) → IsPlain value → IsSpellable value
  | .null, _ => trivial
  | .flag _, _ => trivial
  | .number _, _ => trivial
  | .text _, _ => trivial
  | .sequence items, plain => AreItemsPlain.spellable items plain
  | .record members, plain => AreMembersPlain.spellable members plain

theorem AreItemsPlain.spellable : (items : Items) → AreItemsPlain items → AreItemsSpellable items
  | .closed, _ => trivial
  | .item value rest, plain =>
    ⟨IsPlain.spellable value plain.1, AreItemsPlain.spellable rest plain.2⟩

theorem AreMembersPlain.spellable :
    (members : Members) → AreMembersPlain members → AreMembersSpellable members
  | .closed, _ => trivial
  | .member _ value rest, plain =>
    ⟨IsPlain.spellable value plain.2.1, AreMembersPlain.spellable rest plain.2.2⟩
end

theorem run_of_step {state next : State} {token : Token} (stepped : state.step token = some next)
    (rest : List Token) : run state (token :: rest) = run next rest := by
  rw [run]
  · rw [stepped]
  · rintro value rfl
    cases stepped

theorem run_needsItem {value : Value} (spellable : IsSpellable value) (stack : List Frame)
    (rest : List Token) :
    run (.needsItem stack) (tokensOf value ++ rest) =
      run (.needsValue (.item [] :: stack)) (tokensOf value ++ rest) := by
  cases value with
  | moment => exact spellable.elim
  | broken => exact spellable.elim
  | _ => rfl

mutual
theorem run_tokensOf (value : Value) (spellable : IsSpellable value) (stack : List Frame)
    (rest : List Token) :
    run (.needsValue stack) (tokensOf value ++ rest) = run (.holds value stack) rest := by
  cases value with
  | moment => exact spellable.elim
  | broken => exact spellable.elim
  | sequence items =>
      have opened : ∀ inside, run (.needsValue stack) (.openSequence :: inside) =
          run (.needsItem stack) inside := run_of_step rfl
      rw [tokensOf, List.cons_append, List.append_assoc, opened]
      exact run_firstItem items spellable stack rest
  | record members =>
      have opened : ∀ inside, run (.needsValue stack) (.openRecord :: inside) =
          run (.needsFirstName stack) inside := run_of_step rfl
      rw [tokensOf, List.cons_append, List.append_assoc, opened]
      exact run_firstMember members spellable stack rest
  | _ => exact run_of_step rfl rest

theorem run_firstItem (items : Items) (spellable : AreItemsSpellable items) (stack : List Frame)
    (rest : List Token) :
    run (.needsItem stack) (tokensOfItems true items ++ (.closeSequence :: rest)) =
      run (.holds (.sequence items) stack) rest := by
  cases items with
  | broken => exact spellable.elim
  | closed => exact run_of_step rfl rest
  | item value others =>
      simp only [AreItemsSpellable] at spellable
      simp only [tokensOfItems, if_true, List.nil_append, List.append_assoc]
      rw [run_needsItem spellable.1, run_tokensOf value spellable.1,
        run_followingItems others spellable.2]
      rfl

theorem run_followingItems (items : Items) (spellable : AreItemsSpellable items) (value : Value)
    (before : List Value) (stack : List Frame) (rest : List Token) :
    run (.holds value (.item before :: stack))
        (tokensOfItems false items ++ (.closeSequence :: rest)) =
      run (.holds (.sequence (.precede before (.item value items))) stack) rest := by
  cases items with
  | broken => exact spellable.elim
  | closed => exact run_of_step rfl rest
  | item next others =>
      have comma : ∀ following, run (.holds value (.item before :: stack)) (.comma :: following) =
          run (.needsValue (.item (value :: before) :: stack)) following := run_of_step rfl
      simp only [AreItemsSpellable] at spellable
      simp only [tokensOfItems, Bool.false_eq_true, if_false, List.append_assoc,
        List.cons_append, List.nil_append]
      rw [comma, run_tokensOf next spellable.1, run_followingItems others spellable.2]
      rfl

theorem run_firstMember (members : Members) (spellable : AreMembersSpellable members)
    (stack : List Frame) (rest : List Token) :
    run (.needsFirstName stack) (tokensOfMembers true members ++ (.closeRecord :: rest)) =
      run (.holds (.record members) stack) rest := by
  cases members with
  | broken => exact spellable.elim
  | closed => exact run_of_step rfl rest
  | member name value others =>
      have named : ∀ following, run (.needsFirstName stack) (.text name :: .colon :: following) =
          run (.needsValue (.member [] name :: stack)) following :=
        fun following => (run_of_step rfl _).trans (run_of_step rfl following)
      simp only [AreMembersSpellable] at spellable
      simp only [tokensOfMembers, if_true, List.nil_append, List.append_assoc, List.cons_append]
      rw [named, run_tokensOf value spellable.1, run_followingMembers others spellable.2]
      rfl

theorem run_followingMembers (members : Members) (spellable : AreMembersSpellable members)
    (name : Option String) (value : Value) (before : List (Option String × Value))
    (stack : List Frame) (rest : List Token) :
    run (.holds value (.member before name :: stack))
        (tokensOfMembers false members ++ (.closeRecord :: rest)) =
      run (.holds (.record (.precede before (.member name value members))) stack) rest := by
  cases members with
  | broken => exact spellable.elim
  | closed => exact run_of_step rfl rest
  | member nextName next others =>
      have named : ∀ following,
          run (.holds value (.member before name :: stack))
              (.comma :: .text nextName :: .colon :: following) =
            run (.needsValue (.member ((name, value) :: before) nextName :: stack)) following :=
        fun following => (run_of_step rfl _).trans <| (run_of_step rfl _).trans <|
          run_of_step rfl following
      simp only [AreMembersSpellable] at spellable
      simp only [tokensOfMembers, Bool.false_eq_true, if_false, List.append_assoc,
        List.cons_append, List.nil_append]
      rw [named, run_tokensOf next spellable.1, run_followingMembers others spellable.2]
      rfl
end

theorem treeOf_print {value : Value} (plain : IsPlain value) :
    treeOf (print value) = ⟨value, true⟩ := by
  have spelled := tokens_print value plain [] (by simp [Numeral.EndsBefore])
  have empty : tokens [] = [] := by rw [tokens]
  rw [List.append_nil, empty] at spelled
  rw [treeOf, spelled, run_tokensOf value (IsPlain.spellable value plain), run]
  rfl

end BucketReplication.Json
