import BucketReplication.Document.Reading
import BucketReplication.Toml.Key
import BucketReplication.Toml.Moment
import BucketReplication.Toml.Number
import BucketReplication.Toml.Table

/-! # TOML documents

A document is read line by line into its tables. It is well formed as a whole
before any of its values is looked at. -/

namespace BucketReplication.Toml

open Document (Value ReadFault Shape)

def scalar (text : List Char) : Option (Node × List Char) :=
  match text with
  | [] => none
  | 't' :: 'r' :: 'u' :: 'e' :: rest => some (.scalar (.flag true), rest)
  | 'f' :: 'a' :: 'l' :: 's' :: 'e' :: rest => some (.scalar (.flag false), rest)
  | c :: _ =>
    if c = '"' ∨ c = '\'' then
      (Quotation.string text).map fun (content, rest) => (.scalar (.text (some content)), rest)
    else
      match Moment.scan text with
      | some rest => some (.scalar .moment, rest)
      | none =>
        (Numeral.scan text).map fun (number, rest) => (.scalar (.number (some number)), rest)

/-- The items of an array and its closing bracket. A comma may follow the last
item. -/
def arrayItems (item : Scan Node) : (limit : Nat) → Scan (List Node)
  | 0, _ => none
  | limit + 1, text =>
    match skipLines text with
    | ']' :: rest => some ([], rest)
    | following => do
      let (first, afterFirst) ← item following
      match skipLines afterFirst with
      | ',' :: rest => do
        let (others, remaining) ← arrayItems item limit rest
        return (first :: others, remaining)
      | ']' :: rest => return ([first], rest)
      | _ => none

def keyAndValue (value : Scan Node) : Scan (List String × String × Node) := fun text => do
  let (path, afterKey) ← key text
  let (parents, last) ← Assembly.splitLast path
  match afterKey with
  | '=' :: rest => do
    let (node, following) ← value (skipBlanks rest)
    return ((parents, last, node), following)
  | _ => none

def inlineEntries (value : Scan Node) : (limit : Nat) → Table → Scan Table
  | 0, _, _ => none
  | limit + 1, table, text => do
    let ((parents, last, node), following) ← keyAndValue value text
    let extended ← table.define parents last node
    match skipBlanks following with
    | ',' :: rest => inlineEntries value limit extended rest
    | '}' :: rest => return (extended, rest)
    | _ => none

def inlineTable (value : Scan Node) : Scan Table := fun text =>
  match skipBlanks text with
  | '}' :: rest => some (.opened, rest)
  | following => inlineEntries value following.length .opened following

def value : (depth : Nat) → Scan Node
  | 0, text => scalar text
  | depth + 1, text =>
    match text with
    | '[' :: rest => do
      let (nodes, following) ← arrayItems (value depth) (rest.length + 1) rest
      return (.array (.ofList nodes), following)
    | '{' :: rest => do
      let (table, following) ← inlineTable (value depth) rest
      return (.inline table, following)
    | _ => scalar text

def endLine (text : List Char) : Option (List Char) :=
  match skipComment (skipBlanks text) with
  | [] => some []
  | following => lineEnd? following

def header (text : List Char) (assembly : Assembly) : Option (Assembly × List Char) := do
  match text with
  | '[' :: rest =>
    let (path, following) ← key rest
    match following with
    | ']' :: ']' :: rest => do
      let next ← assembly.openArrayItem path
      let remaining ← endLine rest
      return (next, remaining)
    | _ => none
  | _ =>
    let (path, following) ← key text
    match following with
    | ']' :: rest => do
      let next ← assembly.openTable path
      let remaining ← endLine rest
      return (next, remaining)
    | _ => none

def statement (text : List Char) (assembly : Assembly) : Option (Assembly × List Char) := do
  match text with
  | '[' :: rest => header rest assembly
  | _ =>
    match endLine text with
    | some rest => return (assembly, rest)
    | none =>
      let ((parents, last, node), following) ← keyAndValue (value depthLimit) text
      let next ← assembly.define parents last node
      let remaining ← endLine following
      return (next, remaining)

def statements : (limit : Nat) → List Char → Assembly → Option Assembly
  | 0, _, _ => none
  | limit + 1, text, assembly =>
    match skipBlanks text with
    | [] => some assembly
    | following => do
      let (next, rest) ← statement following assembly
      statements limit rest next

/-- A byte order mark in front of a document is passed over. -/
def dropByteOrderMark (text : List Char) : List Char :=
  match text with
  | '\uFEFF' :: rest => rest
  | _ => text

def tableOf? (text : String) : Option Table := do
  let characters := dropByteOrderMark text.toList
  let assembly ← statements (characters.length + 1) characters .start
  assembly.finish

/-- Read a TOML text as a value of the given shape. -/
def read {α : Type} (shape : Shape α) (text : String) : Except ReadFault α :=
  match tableOf? text with
  | none => .error .malformed
  | some table => shape.read .toml (.record table.members)

end BucketReplication.Toml
