import BucketReplication.ErrorCode
import BucketReplication.Replication.Rule

/-! # Errors

Everything that can go wrong when buckets and keys are read or changed. -/

namespace BucketReplication

inductive Error where
  | backend (code : ErrorCode) (message : String) (resource : Option String)
  | revisionMismatch (bucket : String) (expected actual : UInt64)
  | invalidReplication (problem : RuleProblem)
  | transport (message : String)
  | configuration (message : String)
  | inputOutput (message : String)
  | internal (message : String)
deriving DecidableEq, Repr

namespace Error

def message : Error → String
  | .backend code message _ => code.wireName ++ ": " ++ message
  | .revisionMismatch bucket expected actual =>
    "bucket " ++ bucket ++ " was modified concurrently: expected revision " ++
      toString expected.toNat ++ ", found " ++ toString actual.toNat
  | .invalidReplication problem => "invalid replication configuration: " ++ problem.message
  | .transport message => "transport error: " ++ message
  | .configuration message => "configuration error: " ++ message
  | .inputOutput message => "I/O error: " ++ message
  | .internal message => "internal error: " ++ message

/-- The code of the backend that says best what is wrong. -/
def code : Error → ErrorCode
  | .backend code _ _ => code
  | .revisionMismatch .. => .conflict
  | .invalidReplication _ => .badRequest
  | .transport _ => .serviceUnavailable
  | .configuration _ => .badRequest
  | .inputOutput _ => .internalError
  | .internal _ => .internalError

def httpStatus (error : Error) : Nat :=
  error.code.httpStatus

/-- Something changed at the same time: reading again and retrying can help. -/
def isConflict (error : Error) : Bool :=
  error.code = .conflict

end Error

end BucketReplication
