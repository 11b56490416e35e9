/-! # Metrics

Counters that only ever grow. Each thing that is counted is one increment. -/

namespace BucketReplication

inductive KeyRole where
  | source
  | destination
deriving DecidableEq, Repr

inductive Metric where
  | keysCreated (role : KeyRole)
  | rulesCreated
  | deletedKeysFound
deriving DecidableEq, Repr

namespace Metric

def all : List Metric :=
  [.keysCreated .source, .keysCreated .destination, .rulesCreated, .deletedKeysFound]

def name : Metric → String
  | .keysCreated .source => "replication_keys_created_total\x7brole=source\x7d"
  | .keysCreated .destination => "replication_keys_created_total\x7brole=destination\x7d"
  | .rulesCreated => "replication_rules_created_total"
  | .deletedKeysFound => "replication_zombie_keys_total"

/-- The metrics that occur among some increments, with their counts. -/
def totals (increments : List Metric) : List (Metric × Nat) :=
  (all.map fun metric => (metric, increments.count metric)).filter fun (_, count) => 0 < count

end Metric

end BucketReplication
