import BucketReplication.Proofs.Document.Members
import BucketReplication.Proofs.Toml.Tidy

/-! # Tidy tables as records

The members of a tidy table have different names and are complete. So what a table is
read as depends on what stands under the keys of the fields, and on nothing else. -/

namespace BucketReplication.Toml

open Document

mutual
theorem Node.Tidy.complete : (node : Node) → node.Tidy → node.value.isComplete = true
  | .scalar _, tidy => tidy
  | .array nodes, tidy => Nodes.Tidy.complete nodes tidy
  | .inline table, tidy => Table.Tidy.complete table tidy
  | .table table, tidy => Table.Tidy.complete table tidy
  | .tables nodes, tidy => Nodes.Tidy.complete nodes tidy

theorem Nodes.Tidy.complete : (nodes : Nodes) → nodes.Tidy → nodes.items.isComplete = true
  | .none, _ => rfl
  | .node first rest, tidy => by
      rw [Nodes.items, Items.isComplete, Node.Tidy.complete first tidy.1,
        Nodes.Tidy.complete rest tidy.2, Bool.and_self]

theorem Table.Tidy.complete : (table : Table) → table.Tidy → table.members.isComplete = true
  | .mk _ _ entries, tidy => Entries.Tidy.complete entries tidy

theorem Entries.Tidy.complete : (entries : Entries) → entries.Tidy →
    entries.members.isComplete = true
  | .none, _ => rfl
  | .entry _ node rest, tidy => by
      rw [Entries.members, Members.isComplete, Node.Tidy.complete node tidy.2.1,
        Entries.Tidy.complete rest tidy.2.2, Bool.and_self]
end

namespace Entries

def bindings : Entries → List (String × Value)
  | .none => []
  | .entry key node rest => (key, node.value) :: rest.bindings

variable {entries : Entries} {key : String}

theorem members_eq (entries : Entries) : entries.members = .ofList entries.bindings := by
  fun_induction bindings entries with
  | case1 => rfl
  | case2 key node rest induction => rw [members, Members.ofList, induction]

theorem mem_names_iff : key ∈ entries.bindings.map Prod.fst ↔ entries.lookup key ≠ Option.none := by
  fun_induction bindings entries with
  | case1 => simp [lookup]
  | case2 name node rest induction =>
      rw [List.map_cons, List.mem_cons, induction, Ne, Ne, lookup_entry_eq_none, not_and_or,
        not_not, eq_comm]

theorem mem_bindings {node : Node} (found : entries.lookup key = some node) :
    (key, node.value) ∈ entries.bindings := by
  fun_induction lookup key entries with
  | case1 => cases found
  | case2 =>
      cases found
      exact List.mem_cons_self
  | case3 name first rest _ induction => exact List.mem_cons_of_mem _ (induction found)

theorem Tidy.distinct (tidy : entries.Tidy) : (entries.bindings.map Prod.fst).Nodup := by
  fun_induction bindings entries with
  | case1 => exact List.nodup_nil
  | case2 name node rest induction =>
      refine List.nodup_cons.2 ⟨?_, induction tidy.2.2⟩
      rw [mem_names_iff, not_not]
      exact tidy.1

theorem Tidy.bindings_complete (tidy : entries.Tidy) :
    ∀ member ∈ entries.bindings, member.2.isComplete = true := by
  fun_induction bindings entries with
  | case1 => nofun
  | case2 name node rest induction =>
      exact List.forall_mem_cons.2 ⟨Node.Tidy.complete node tidy.2.1, induction tidy.2.2⟩

end Entries

namespace Table

def bindings (table : Table) : List (String × Value) :=
  table.entries.bindings

theorem members_eq (table : Table) : table.members = .ofList table.bindings := by
  cases table with
  | mk implicit dotted entries => exact entries.members_eq

variable {table : Table} {key : String} {α δ : Type} {fields : Fields α δ}

theorem not_mem_names (missing : table.lookup key = none) :
    key ∉ table.bindings.map Prod.fst := by
  rw [bindings, Entries.mem_names_iff, not_not]
  exact missing

theorem Tidy.admits (tidy : table.Tidy) (fields : Fields α δ) : fields.Admits table.bindings := by
  rw [tidy_iff] at tidy
  refine ⟨fun name _ => ?_, fun member listed _ => tidy.bindings_complete member listed⟩
  exact List.nodup_iff_count.1 tidy.distinct name

/-- A tidy table is read as a record just when its members settle every field. -/
theorem Tidy.read_iff (tidy : table.Tidy) (label : String) (distinct : fields.names.Nodup)
    (value : α) :
    (Shape.record label fields).read .toml (.record table.members) = .ok value ↔
      fields.Settles .toml table.bindings value := by
  rw [members_eq, Shape.read_record, Fields.ofMembers_iff .toml fields distinct,
    and_iff_right (tidy.admits fields)]

end Table

end BucketReplication.Toml
