import BucketReplication.Json.Token

/-! # The tree of a JSON text

The tree is built by a machine that takes one token at a time and keeps a stack
of the sequences and records that are open. Whatever the tokens are it ends
with a tree: at the first token that does not fit, what is open is closed as
broken. -/

namespace BucketReplication.Json

open Document (Value Items Members)

def Token.scalar? : Token → Option Value
  | .null => some .null
  | .flag value => some (.flag value)
  | .number stored => some (.number stored)
  | .text content => some (.text content)
  | _ => none

/-- An open sequence or record: what stands in front of the value being read,
the nearest first. -/
inductive Frame where
  | item (before : List Value)
  | member (before : List (Option String × Value)) (name : Option String)

inductive State where
  | needsValue (stack : List Frame)
  | needsItem (stack : List Frame)
  | needsFirstName (stack : List Frame)
  | needsName (before : List (Option String × Value)) (stack : List Frame)
  | needsColon (before : List (Option String × Value)) (name : Option String) (stack : List Frame)
  | holds (value : Value) (stack : List Frame)

def closeBroken (value : Value) : List Frame → Value
  | [] => value
  | .item before :: stack =>
    closeBroken (.sequence (.precede before (.item value .broken))) stack
  | .member before name :: stack =>
    closeBroken (.record (.precede before (.member name value .broken))) stack

namespace State

def cut : State → Value
  | .needsValue stack => closeBroken .broken stack
  | .needsItem stack => closeBroken (.sequence .broken) stack
  | .needsFirstName stack => closeBroken (.record .broken) stack
  | .needsName before stack => closeBroken (.record (.precede before .broken)) stack
  | .needsColon before name stack =>
    closeBroken (.record (.precede before (.member name .broken .broken))) stack
  | .holds value stack => closeBroken value stack

def beginValue (token : Token) (stack : List Frame) : Option State :=
  match token with
  | .openSequence => some (.needsItem stack)
  | .openRecord => some (.needsFirstName stack)
  | token => token.scalar?.map fun value => .holds value stack

def step : State → Token → Option State
  | .needsValue stack, token => beginValue token stack
  | .needsItem stack, .closeSequence => some (.holds (.sequence .closed) stack)
  | .needsItem stack, token => beginValue token (.item [] :: stack)
  | .needsFirstName stack, .closeRecord => some (.holds (.record .closed) stack)
  | .needsFirstName stack, .text name => some (.needsColon [] name stack)
  | .needsName before stack, .text name => some (.needsColon before name stack)
  | .needsColon before name stack, .colon => some (.needsValue (.member before name :: stack))
  | .holds value (.item before :: stack), .comma =>
    some (.needsValue (.item (value :: before) :: stack))
  | .holds value (.item before :: stack), .closeSequence =>
    some (.holds (.sequence (.precede before (.item value .closed))) stack)
  | .holds value (.member before name :: stack), .comma =>
    some (.needsName ((name, value) :: before) stack)
  | .holds value (.member before name :: stack), .closeRecord =>
    some (.holds (.record (.precede before (.member name value .closed))) stack)
  | _, _ => none

end State

/-- The value at the front of a text, and whether nothing but white space
follows it. -/
structure Tree where
  value : Value
  isWhole : Bool

def run : State → List Token → Tree
  | .holds value [], tokens => ⟨value, tokens.isEmpty⟩
  | state, [] => ⟨state.cut, false⟩
  | state, token :: rest =>
    match state.step token with
    | some next => run next rest
    | none => ⟨state.cut, false⟩

def treeOf (text : String) : Tree :=
  run (.needsValue []) (tokens text.toList)

end BucketReplication.Json
