import BucketReplication.Document.Shape
import BucketReplication.Text.Quoted

/-! # Replication rules

A rule sends the files of a bucket to another one. -/

namespace BucketReplication

open Document (Shape Fields NaturalRange)

inductive RuleProblem where
  | duplicateName (name : String)
  | invalidName (name : String)
  | missingDestination
  | priorityOutOfRange (priority : UInt32)
deriving DecidableEq, Repr

structure Rule where
  name : String
  priority : UInt32
  destinationBucketId : String
  /-- Only files whose names begin with this text are replicated. -/
  fileNameStart : String
  /-- Files that were there before the rule are replicated too. -/
  includesExistingFiles : Bool
  isEnabled : Bool
deriving DecidableEq, Repr

namespace Rule

def defaultPriority : UInt32 := 128

def lowestPriority : UInt32 := 1

def highestPriority : UInt32 := 2147483647

def longestName : Nat := 64

def new (name destinationBucketId : String) : Rule :=
  { name, destinationBucketId
    priority := defaultPriority
    fileNameStart := ""
    includesExistingFiles := false
    isEnabled := true }

def isNameCharacter (c : Char) : Bool :=
  c.isAlphanum || c = '-' || c = '_'

def isValidName (name : String) : Bool :=
  let characters := name.toList
  !characters.isEmpty && characters.length ≤ longestName && characters.all isNameCharacter

def isValidPriority (priority : UInt32) : Bool :=
  lowestPriority ≤ priority && priority ≤ highestPriority

def problem? (rule : Rule) : Option RuleProblem :=
  if rule.destinationBucketId.isEmpty then some .missingDestination
  else if !isValidName rule.name then some (.invalidName rule.name)
  else if !isValidPriority rule.priority then some (.priorityOutOfRange rule.priority)
  else none

def shape : Shape Rule :=
  .converted
    (.record "ReplicationRule"
      (.field "replicationRuleName" .text none
      (.field "priority" (.natural .word32) (some defaultPriority)
      (.field "destinationBucketId" .text none
      (.field "fileNamePrefix" .text (some "")
      (.field "includeExistingFiles" .flag (some false)
      (.field "isEnabled" .flag (some true)
      .done)))))))
    (fun (name, priority, destinationBucketId, fileNameStart, includesExistingFiles,
        isEnabled, ()) =>
      { name, priority, destinationBucketId, fileNameStart, includesExistingFiles, isEnabled })
    (fun rule =>
      (rule.name, rule.priority, rule.destinationBucketId, rule.fileNameStart,
        rule.includesExistingFiles, rule.isEnabled, ()))

end Rule

namespace RuleProblem

def message : RuleProblem → String
  | .duplicateName name => "duplicate replication rule name: " ++ name
  | .invalidName name => "invalid replication rule name: " ++ Text.quoted name
  | .missingDestination => "destination bucket id is required"
  | .priorityOutOfRange priority =>
    "priority " ++ toString priority.toNat ++ " is out of range [" ++
      toString Rule.lowestPriority.toNat ++ ", " ++ toString Rule.highestPriority.toNat ++ "]"

end RuleProblem

end BucketReplication
