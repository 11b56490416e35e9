import BucketReplication.Error
import BucketReplication.Settings.Setup
import BucketReplication.Text.Quoted

/-! # Problems with settings -/

namespace BucketReplication

inductive FileProblem where
  | missing
  | directory
  | invalidText
deriving DecidableEq, Repr

inductive FilterProblem where
  | directive
  | level
deriving DecidableEq, Repr

inductive SettingsProblem where
  | file (problem : FileProblem)
  | document (complaint : Option String)
  | defaultPriority (priority : UInt32)
  | logFilter (filter : String) (problem : FilterProblem)
  | logInUse
deriving DecidableEq, Repr

namespace FileProblem

def message : FileProblem → String
  | .missing => "No such file or directory (os error 2)"
  | .directory => "Is a directory (os error 21)"
  | .invalidText => "stream did not contain valid UTF-8"

end FileProblem

namespace FilterProblem

def message : FilterProblem → String
  | .directive => "invalid filter directive"
  | .level =>
    "error parsing level filter: expected one of \"off\", \"error\", \"warn\", \"info\", " ++
      "\"debug\", \"trace\", or a number 0-5"

end FilterProblem

namespace SettingsProblem

def toError : SettingsProblem → Error
  | .file problem => .inputOutput problem.message
  | .document complaint => .configuration (complaint.getD "")
  | .defaultPriority priority =>
    .configuration
      ("default_priority must be between " ++ toString Rule.lowestPriority.toNat ++ " and " ++
        toString Rule.highestPriority.toNat ++ ", got " ++ toString priority.toNat)
  | .logFilter filter problem =>
    .configuration ("invalid log level " ++ Text.quoted filter ++ ": " ++ problem.message)
  | .logInUse =>
    .configuration
      "failed to install logger: a global default trace dispatcher has already been set"

end SettingsProblem

namespace SetupSettings

def problem? (settings : SetupSettings) : Option SettingsProblem :=
  if settings.isValid then none else some (.defaultPriority settings.defaultPriority)

end SetupSettings

end BucketReplication
