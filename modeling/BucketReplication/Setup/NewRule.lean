import BucketReplication.Replication.Settings
import BucketReplication.Settings.Setup

/-! # New rules

The rule that a setup adds to a source bucket. Its name and its priority are
taken as given, or else follow from the rules that the bucket has. -/

namespace BucketReplication

structure NewRule where
  name : Option String
  priority : Option UInt32
  fileNameStart : Option String
  includesExistingFiles : Bool
deriving DecidableEq, Repr

namespace NewRule

def derived : NewRule := ⟨none, none, none, false⟩

def highestPriority : List Rule → Option UInt32
  | [] => none
  | rule :: rest =>
    match highestPriority rest with
    | none => some rule.priority
    | some priority => some (max rule.priority priority)

/-- The priority of a rule that is added to others: the given one, or one above
them all by the offset of the settings. At the top of the range there is no
room above. -/
def choosePriority (settings : SetupSettings) (rules : List Rule)
    (given : Option UInt32) : UInt32 :=
  match given, highestPriority rules with
  | some priority, _ => priority
  | none, none => settings.defaultPriority
  | none, some highest =>
    UInt32.ofNat (min (highest.toNat + settings.priorityOffset.toNat) Rule.highestPriority.toNat)

/-- The names to try for a rule, from 0 on: the name of the destination bucket,
then the same name with 2, 3 and so on behind it. -/
def candidateName (destinationName : String) : Nat → String
  | 0 => destinationName
  | index + 1 => destinationName ++ Nat.repr (index + 2)

/-- The name of a rule that is added to others: the given one, or the first
candidate that is still free. There are more candidates than rules, so one is
free. -/
def chooseName (rules : List Rule) (destinationName : String) (given : Option String) :
    String :=
  match given with
  | some name => name
  | none =>
    let taken := rules.map Rule.name
    let candidates := (List.range (rules.length + 1)).map (candidateName destinationName)
    (candidates.find? fun candidate => !taken.contains candidate).getD ""

end NewRule

end BucketReplication
