import BucketReplication.Backend.Accounts
import BucketReplication.Backend.Fault
import BucketReplication.Setup.Replication

/-! # Commands

One step of a scenario: something done to an account directly, through a handle
that an earlier step stored under a name, or by a setup. A command that yields
a handle can store it. -/

namespace BucketReplication.Scenario

inductive Command where
  | createBucket (account name : String) (saveAs : Option String)
  | fetch (account name : String) (saveAs : Option String)
  | findBucket (account bucketId : String)
  | createKey (account : String) (request : KeyRequest)
  | getKey (account keyId : String)
  | deleteKey (account keyId : String)
  | countKeys (account : String)
  /-- Update a bucket at a revision, or at that of the handle. -/
  | update (handle : String) (revision : Option UInt64) (settings : ReplicationSettings)
      (saveAs : Option String)
  | updateById (account bucketId : String) (revision : UInt64)
      (settings : ReplicationSettings)
  | setupSource (source destination : String) (wished : NewRule) (saveAs : Option String)
  | setupDestination (sourceKeyId handle : String) (saveAs : Option String)
  | setupBoth (source destination : String) (wished : NewRule)
      (saveSourceAs saveDestinationAs : Option String)
  | inspect (handle : String)
  | display (handle : String)
  | injectFault (fault : Fault)
  | clearFaults (account : String)
  | withholdSettings (account : String) (value : Bool)

inductive Answer where
  | nothing
  | bucket (bucket : Bucket)
  | foundBucket (bucket : Option Bucket)
  | key (key : ApplicationKey)
  | foundKey (key : Option ApplicationKey)
  | count (count : Nat)
  | handle (handle : Handle)
  | handles (source destination : Handle)
  | text (content : String)

inductive Failure where
  | unknownHandle (name : String)
  | error (error : Error)

def Command.account? : Command → Option String
  | .createBucket account .. => some account
  | .fetch account .. => some account
  | .findBucket account _ => some account
  | .createKey account _ => some account
  | .getKey account _ => some account
  | .deleteKey account _ => some account
  | .countKeys account => some account
  | .updateById account .. => some account
  | .injectFault fault => some fault.account
  | .clearFaults account => some account
  | .withholdSettings account _ => some account
  | .update .. => none
  | .setupSource .. => none
  | .setupDestination .. => none
  | .setupBoth .. => none
  | .inspect _ => none
  | .display _ => none

end BucketReplication.Scenario
