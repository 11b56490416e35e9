import BucketReplication.Document.Reading
import BucketReplication.Document.Writing
import BucketReplication.Json.Tree
import BucketReplication.Text.Quoted

/-! # Records as JSON text

A record is read from any text of its tree. It is written on one line, without white
space and in the order of its members. -/

namespace BucketReplication.Json

open Document (Number Value Items Members ReadFault Shape)

def twoHexadecimal (value : Nat) : String :=
  String.ofList [Nat.digitChar (value / 16), Nat.digitChar (value % 16)]

/-- How a character stands in a JSON string. Only the quote, the backslash and
control characters are escaped. -/
def printCharacter (c : Char) : String :=
  match c with
  | '"' => "\\\""
  | '\\' => "\\\\"
  | '\x08' => "\\b"
  | '\x0c' => "\\f"
  | '\n' => "\\n"
  | '\r' => "\\r"
  | '\t' => "\\t"
  | c => if c.toNat < 0x20 then "\\u00" ++ twoHexadecimal c.toNat else c.toString

def printText (content : String) : String :=
  "\"" ++ String.join (content.toList.map printCharacter) ++ "\""

def printNumber : Number → String
  | .integer value => toString value
  | .real shown => shown

mutual
/-- The text of a value. What is broken or no value of JSON has no text. -/
def print : Value → String
  | .null => "null"
  | .flag true => "true"
  | .flag false => "false"
  | .number number => (number.map printNumber).getD ""
  | .text content => (content.map printText).getD ""
  | .moment => ""
  | .broken => ""
  | .sequence items => "[" ++ printItems true items ++ "]"
  | .record members => "\x7b" ++ printMembers true members ++ "\x7d"

def printItems (isFirst : Bool) : Items → String
  | .item value rest =>
    (if isFirst then "" else ",") ++ print value ++ printItems false rest
  | _ => ""

def printMembers (isFirst : Bool) : Members → String
  | .member name value rest =>
    (if isFirst then "" else ",") ++ (name.map printText).getD "" ++ ":" ++ print value ++
      printMembers false rest
  | _ => ""
end

/-- Read a JSON text as a value of the given shape. Nothing but white space may
follow the value. -/
def read {α : Type} (shape : Shape α) (text : String) : Except ReadFault α := do
  let tree := treeOf text
  let value ← shape.read .json tree.value
  if tree.isWhole then return value
  else throw .malformed

def write {α : Type} (shape : Shape α) (value : α) : String :=
  print (shape.write value)

end BucketReplication.Json
