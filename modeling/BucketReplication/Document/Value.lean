/-! # Documents as far as they can be read

A document is a tree of values. A text that is not well formed still has a
tree: it holds everything in front of the first mistake, and `broken` stands
where the text stops making sense. A reader that walks the tree from left to
right therefore meets wrong values and mistakes in the order of the text. -/

namespace BucketReplication.Document

/-- A number in a document. Of a number that is not an integer only its text is
ever needed. -/
inductive Number where
  | integer (value : Int)
  | real (shown : String)
deriving DecidableEq, Repr

mutual
/-- A value. A number is `none` when its magnitude is beyond double precision,
and a text is `none` when half of a surrogate pair stands alone in it: both
are mistakes only for a reader that asks for the value. A moment is a date, a
time or both. -/
inductive Value where
  | null
  | flag (value : Bool)
  | number (number : Option Number)
  | text (content : Option String)
  | moment
  | sequence (items : Items)
  | record (members : Members)
  | broken

inductive Items where
  | closed
  | broken
  | item (value : Value) (rest : Items)

inductive Members where
  | closed
  | broken
  | member (name : Option String) (value : Value) (rest : Members)
end

deriving instance DecidableEq for Value
deriving instance DecidableEq for Items
deriving instance DecidableEq for Members
deriving instance Repr for Value
deriving instance Repr for Items
deriving instance Repr for Members

mutual
def Value.isComplete : Value → Bool
  | .sequence items => items.isComplete
  | .record members => members.isComplete
  | .broken => false
  | _ => true

def Items.isComplete : Items → Bool
  | .closed => true
  | .broken => false
  | .item value rest => value.isComplete && rest.isComplete

def Members.isComplete : Members → Bool
  | .closed => true
  | .broken => false
  | .member _ value rest => value.isComplete && rest.isComplete
end

namespace Items

def ofList : List Value → Items
  | [] => .closed
  | value :: rest => .item value (ofList rest)

/-- Put items in front of others. The last one comes first in the list. -/
def precede (before : List Value) (rest : Items) : Items :=
  before.foldl (fun items value => .item value items) rest

end Items

namespace Members

def ofList : List (String × Value) → Members
  | [] => .closed
  | (name, value) :: rest => .member (some name) value (ofList rest)

def precede (before : List (Option String × Value)) (rest : Members) : Members :=
  before.foldl (fun members (name, value) => .member name value members) rest

end Members

end BucketReplication.Document
