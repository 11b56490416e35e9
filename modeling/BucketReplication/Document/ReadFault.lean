import BucketReplication.Document.Value
import BucketReplication.Text.Quoted

/-! # Faults in reading a document

What keeps a document from being read as a record: either the text is not well
formed, or a value is not what the record asks for. -/

namespace BucketReplication.Document

inductive Found where
  | null
  | flag (value : Bool)
  | number (number : Number)
  | text (content : String)
  | sequence
  | map
deriving DecidableEq, Repr

inductive ReadFault where
  | malformed
  | wrongKind (found : Found) (expected : String)
  | outOfRange (value : Int) (expected : String)
  | unknownChoice (name : String) (choices : List String)
  /-- A record written as a sequence ends before the field at `index`, which
  cannot be left out. -/
  | tooShort (index : Nat) (record : String) (fieldCount : Nat)
  | missingField (name : String)
  | duplicateField (name : String)
deriving DecidableEq, Repr

namespace Found

def describe : Found → String
  | .null => "null"
  | .flag true => "boolean `true`"
  | .flag false => "boolean `false`"
  | .number (.integer value) => "integer `" ++ toString value ++ "`"
  | .number (.real shown) => "floating point `" ++ shown ++ "`"
  | .text content => "string " ++ Text.quoted content
  | .sequence => "sequence"
  | .map => "map"

end Found

namespace Value

/-- What the value is, unless it cannot be made out. A sequence or record is
recognised by its first character. -/
def found? : Value → Option Found
  | .null => some .null
  | .flag value => some (.flag value)
  | .number stored => stored.map .number
  | .text content => content.map .text
  | .moment => some .map
  | .sequence _ => some .sequence
  | .record _ => some .map
  | .broken => none

def unlike (value : Value) (expected : String) : ReadFault :=
  match value.found? with
  | some found => .wrongKind found expected
  | none => .malformed

end Value

namespace ReadFault

def alternatives : List String → String
  | [] => "nothing"
  | [only] => "`" ++ only ++ "`"
  | [first, second] => "`" ++ first ++ "` or `" ++ second ++ "`"
  | choices => "one of " ++ ", ".intercalate (choices.map fun name => "`" ++ name ++ "`")

def message? : ReadFault → Option String
  | .malformed => none
  | .wrongKind found expected =>
    some ("invalid type: " ++ found.describe ++ ", expected " ++ expected)
  | .outOfRange value expected =>
    some ("invalid value: integer `" ++ toString value ++ "`, expected " ++ expected)
  | .unknownChoice name choices =>
    some ("unknown variant `" ++ name ++ "`, expected " ++ alternatives choices)
  | .tooShort index record fieldCount =>
    some ("invalid length " ++ toString index ++ ", expected struct " ++ record ++ " with " ++
      toString fieldCount ++ (if fieldCount = 1 then " element" else " elements"))
  | .missingField name => some ("missing field `" ++ name ++ "`")
  | .duplicateField name => some ("duplicate field `" ++ name ++ "`")

end ReadFault

end BucketReplication.Document
