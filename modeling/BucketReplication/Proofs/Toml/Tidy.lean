import BucketReplication.Toml.Document

/-! # Tables with different keys

A table is tidy when its keys are different, at every depth, and every value in it is
complete. Each way to change a table keeps it tidy, so the table of a document is. -/

namespace BucketReplication.Toml

open Document (Value Number)

mutual
def Node.Tidy : Node → Prop
  | .scalar value => value.isComplete = true
  | .array nodes => nodes.Tidy
  | .inline table => table.Tidy
  | .table table => table.Tidy
  | .tables tables => tables.Tidy

def Nodes.Tidy : Nodes → Prop
  | .none => True
  | .node first rest => first.Tidy ∧ rest.Tidy

def Table.Tidy : Table → Prop
  | .mk _ _ entries => entries.Tidy

def Entries.Tidy : Entries → Prop
  | .none => True
  | .entry key node rest => rest.lookup key = Option.none ∧ node.Tidy ∧ rest.Tidy
end

/-! ## Entries -/

namespace Entries

variable {key other : String} {node : Node} {entries : Entries}

theorem lookup_entry_eq_none {rest : Entries} :
    (entry key node rest).lookup other = Option.none ↔
      key ≠ other ∧ rest.lookup other = Option.none := by
  rw [lookup]
  split <;> simp_all

theorem lookup_append (missing : entries.lookup other = Option.none) (different : key ≠ other) :
    (entries.append key node).lookup other = Option.none := by
  fun_induction append key node entries with
  | case1 => exact lookup_entry_eq_none.2 ⟨different, rfl⟩
  | case2 name first rest induction =>
      rw [lookup_entry_eq_none] at missing ⊢
      exact ⟨missing.1, induction missing.2⟩

theorem lookup_replace (missing : entries.lookup other = Option.none) :
    (entries.replace key node).lookup other = Option.none := by
  fun_induction replace key node entries with
  | case1 => rfl
  | case2 first rest =>
      rw [lookup_entry_eq_none] at missing ⊢
      exact missing
  | case3 name first rest _ induction =>
      rw [lookup_entry_eq_none] at missing ⊢
      exact ⟨missing.1, induction missing.2⟩

theorem lookup_erase (missing : entries.lookup other = Option.none) :
    (entries.erase key).lookup other = Option.none := by
  fun_induction erase key entries with
  | case1 => rfl
  | case2 first rest => exact (lookup_entry_eq_none.1 missing).2
  | case3 name first rest _ induction =>
      rw [lookup_entry_eq_none] at missing ⊢
      exact ⟨missing.1, induction missing.2⟩

namespace Tidy

theorem lookup (tidy : entries.Tidy) (found : entries.lookup key = some node) : node.Tidy := by
  fun_induction Entries.lookup key entries with
  | case1 => cases found
  | case2 first rest =>
      cases found
      exact tidy.2.1
  | case3 name first rest _ induction => exact induction tidy.2.2 found

theorem append (tidy : entries.Tidy) (missing : entries.lookup key = Option.none)
    (fresh : node.Tidy) : (entries.append key node).Tidy := by
  fun_induction Entries.append key node entries with
  | case1 => exact ⟨rfl, fresh, trivial⟩
  | case2 name first rest induction =>
      rw [lookup_entry_eq_none] at missing
      exact ⟨lookup_append tidy.1 missing.1.symm, tidy.2.1, induction tidy.2.2 missing.2⟩

theorem replace (tidy : entries.Tidy) (fresh : node.Tidy) : (entries.replace key node).Tidy := by
  fun_induction Entries.replace key node entries with
  | case1 => trivial
  | case2 first rest => exact ⟨tidy.1, fresh, tidy.2.2⟩
  | case3 name first rest _ induction =>
      exact ⟨lookup_replace tidy.1, tidy.2.1, induction tidy.2.2⟩

theorem erase (tidy : entries.Tidy) : (entries.erase key).Tidy := by
  fun_induction Entries.erase key entries with
  | case1 => trivial
  | case2 first rest => exact tidy.2.2
  | case3 name first rest _ induction => exact ⟨lookup_erase tidy.1, tidy.2.1, induction tidy.2.2⟩

end Tidy

end Entries

/-! ## Nodes -/

namespace Nodes.Tidy

theorem ofList {nodes : List Node} (tidy : ∀ node ∈ nodes, node.Tidy) :
    (Nodes.ofList nodes).Tidy := by
  induction nodes with
  | nil => trivial
  | cons first rest induction =>
      rw [List.forall_mem_cons] at tidy
      exact ⟨tidy.1, induction tidy.2⟩

theorem append {last : Node} {nodes : Nodes} (tidy : nodes.Tidy) (fresh : last.Tidy) :
    (nodes.append last).Tidy := by
  fun_induction Nodes.append last nodes with
  | case1 => exact ⟨fresh, trivial⟩
  | case2 first rest induction => exact ⟨tidy.1, induction tidy.2⟩

end Nodes.Tidy

/-! ## Changes of a table -/

/-- An act on a node or a table that leaves it tidy and gives a proper result. -/
def KeepsTidy {α β : Type} (isTidy : β → Prop) (holds : α → Prop)
    (act : β → Option (α × β)) : Prop :=
  ∀ ⦃before result after⦄, isTidy before → act before = some (result, after) →
    holds result ∧ isTidy after

theorem Nodes.keepsTidy_atLast {α : Type} {holds : α → Prop} {act : Node → Option (α × Node)}
    (keeps : KeepsTidy Node.Tidy holds act) : KeepsTidy Nodes.Tidy holds (Nodes.atLast act) := by
  intro nodes result after tidy acted
  fun_induction Nodes.atLast act nodes generalizing after with
  | case1 => cases acted
  | case2 last =>
      rcases Option.map_eq_some_iff.1 acted with ⟨⟨found, changed⟩, actedLast, same⟩
      cases same
      rcases keeps tidy.1 actedLast with ⟨held, kept⟩
      exact ⟨held, kept, trivial⟩
  | case3 first rest _ induction =>
      rcases Option.map_eq_some_iff.1 acted with ⟨⟨found, others⟩, actedRest, same⟩
      cases same
      rcases induction tidy.2 actedRest with ⟨held, kept⟩
      exact ⟨held, tidy.1, kept⟩

namespace Table

variable {table : Table} {key : String} {node : Node}

theorem tidy_iff : table.Tidy ↔ table.entries.Tidy := by
  cases table
  rfl

theorem tidy_passed (dotted : Bool) : (passed dotted).Tidy := trivial

theorem Tidy.lookup (tidy : table.Tidy) (found : table.lookup key = some node) : node.Tidy :=
  (tidy_iff.1 tidy).lookup found

theorem Tidy.append (tidy : table.Tidy) (missing : table.lookup key = none) (fresh : node.Tidy) :
    (table.append key node).Tidy :=
  (tidy_iff.1 tidy).append missing fresh

theorem Tidy.replace (tidy : table.Tidy) (fresh : node.Tidy) : (table.replace key node).Tidy :=
  (tidy_iff.1 tidy).replace fresh

theorem Tidy.erase (tidy : table.Tidy) : (table.erase key).Tidy :=
  (tidy_iff.1 tidy).erase

theorem keepsTidy_atPath {α : Type} {holds : α → Prop} {act : Table → Option (α × Table)}
    (keeps : KeepsTidy Table.Tidy holds act) (dotted : Bool) (path : List String) :
    KeepsTidy Table.Tidy holds (atPath dotted act path) := by
  induction path with
  | nil => exact keeps
  | cons key rest induction =>
      intro table result after tidy acted
      rw [atPath] at acted
      split at acted
      case h_1 missing =>
        simp only [Option.bind_eq_bind, Option.bind_eq_some_iff] at acted
        rcases acted with ⟨⟨found, child⟩, actedInside, same⟩
        cases same
        rcases induction (tidy_passed dotted) actedInside with ⟨held, kept⟩
        exact ⟨held, tidy.append missing kept⟩
      case h_2 child found =>
        split at acted
        · cases acted
        · simp only [Option.bind_eq_bind, Option.bind_eq_some_iff] at acted
          rcases acted with ⟨⟨_, changed⟩, actedInside, same⟩
          cases same
          rcases induction (tidy.lookup found) actedInside with ⟨held, kept⟩
          exact ⟨held, tidy.replace kept⟩
      case h_3 children found =>
        simp only [Option.bind_eq_bind, Option.bind_eq_some_iff] at acted
        rcases acted with ⟨⟨given, changed⟩, actedInside, same⟩
        cases same
        -- Of an array of tables the last one is entered, which must be a table.
        have keptLast : holds given ∧ changed.Tidy := by
          refine Nodes.keepsTidy_atLast ?_ (tidy.lookup found) actedInside
          intro node result after tidy acted
          dsimp only at acted
          split at acted
          · rcases Option.map_eq_some_iff.1 acted with ⟨⟨_, _⟩, actedChild, same⟩
            cases same
            exact induction tidy actedChild
          · cases acted
        exact ⟨keptLast.1, tidy.replace keptLast.2⟩
      case h_4 => cases acted

def Preserves (change : Table → Option Table) : Prop :=
  ∀ ⦃before after⦄, before.Tidy → change before = some after → after.Tidy

theorem preserves_changeAt {change : Table → Option Table} (keeps : Preserves change)
    (dotted : Bool) (path : List String) : Preserves (changeAt dotted change path) := by
  intro table after tidy changed
  have keepsTarget : KeepsTidy Table.Tidy (fun _ : Unit => True)
      fun target => (change target).map fun changed => ((), changed) := by
    intro before result after tidy acted
    rcases Option.map_eq_some_iff.1 acted with ⟨_, changedTarget, same⟩
    cases same
    exact ⟨trivial, keeps tidy changedTarget⟩
  rcases Option.map_eq_some_iff.1 changed with ⟨⟨_, _⟩, acted, same⟩
  cases same
  exact (keepsTidy_atPath keepsTarget dotted path tidy acted).2

theorem Tidy.define {parents : List String} {extended : Table} (tidy : table.Tidy)
    (fresh : node.Tidy) (defined : table.define parents key node = some extended) : extended.Tidy := by
  refine preserves_changeAt ?_ true parents tidy defined
  intro target after tidy changed
  dsimp only at changed
  split at changed
  · cases changed
  · split at changed
    · cases changed
    · rename_i missing
      cases changed
      exact tidy.append missing fresh

end Table

/-! ## Assembly -/

namespace Assembly

structure Tidy (assembly : Assembly) : Prop where
  root : assembly.root.Tidy
  current : assembly.current.Tidy

theorem tidy_start : start.Tidy := ⟨trivial, trivial⟩

namespace Tidy

variable {assembly next : Assembly} {key : String} {node : Node} {path : List String}

theorem finish {finished : Table} (tidy : assembly.Tidy) (found : assembly.finish = some finished) :
    finished.Tidy := by
  unfold Assembly.finish at found
  split at found
  · cases found
    exact tidy.current
  · rename_i parents key _
    refine Table.preserves_changeAt ?_ false parents tidy.root found
    intro parent after tidyParent changed
    dsimp only at changed
    split at changed
    · rename_i missing
      split at changed
      · cases changed
        exact tidyParent.append missing ⟨tidy.current, trivial⟩
      · cases changed
        exact tidyParent.append missing tidy.current
    · rename_i tables found
      split at changed
      · cases changed
        have tidyTables : tables.Tidy := tidyParent.lookup found
        exact tidyParent.replace (tidyTables.append tidy.current)
      · cases changed
    · cases changed

theorem define {parents : List String} (tidy : assembly.Tidy) (fresh : node.Tidy)
    (defined : assembly.define parents key node = some next) : next.Tidy := by
  simp only [Assembly.define, Option.bind_eq_bind, Option.bind_eq_some_iff] at defined
  rcases defined with ⟨current, extended, same⟩
  cases same
  exact ⟨tidy.root, tidy.current.define fresh extended⟩

theorem continued {parent current : Table} (tidy : parent.Tidy)
    (found : Assembly.continued parent key = some current) : current.Tidy := by
  unfold Assembly.continued at found
  split at found
  · cases found
    trivial
  · rename_i child inside
    split at found
    · cases found
      exact Table.tidy_iff.1 (tidy.lookup inside)
    · cases found
  · cases found

theorem openTable (tidy : assembly.Tidy) (opened : assembly.openTable path = some next) :
    next.Tidy := by
  simp only [Assembly.openTable, Option.bind_eq_bind, Option.bind_eq_some_iff] at opened
  rcases opened with ⟨⟨parents, key⟩, _, finished, found, ⟨current, root⟩, acted, same⟩
  cases same
  have keeps : KeepsTidy Table.Tidy Table.Tidy fun parent =>
      (Assembly.continued parent key).map fun current => (current, parent.erase key) := by
    intro parent result after tidyParent acted
    rcases Option.map_eq_some_iff.1 acted with ⟨_, continuedTable, same⟩
    cases same
    exact ⟨continued tidyParent continuedTable, tidyParent.erase⟩
  rcases Table.keepsTidy_atPath keeps false parents (tidy.finish found) acted with ⟨held, kept⟩
  exact ⟨kept, held⟩

theorem openArrayItem (tidy : assembly.Tidy) (opened : assembly.openArrayItem path = some next) :
    next.Tidy := by
  simp only [Assembly.openArrayItem, Option.bind_eq_bind, Option.bind_eq_some_iff] at opened
  rcases opened with ⟨⟨parents, key⟩, _, finished, found, root, changed, same⟩
  cases same
  refine ⟨?_, trivial⟩
  refine Table.preserves_changeAt ?_ false parents (tidy.finish found) changed
  intro parent after tidyParent changedParent
  dsimp only at changedParent
  split at changedParent
  · rename_i missing
    cases changedParent
    exact tidyParent.append missing trivial
  · cases changedParent
    exact tidyParent
  · cases changedParent

end Tidy

end Assembly

/-! ## Documents -/

def ScansTidy (scan : Scan Node) : Prop :=
  ∀ ⦃text node following⦄, scan text = some (node, following) → node.Tidy

theorem scansTidy_scalar : ScansTidy scalar := by
  intro text node following scanned
  unfold scalar at scanned
  split at scanned
  case h_1 => cases scanned
  case h_2 | h_3 =>
    cases scanned
    rfl
  case h_4 =>
    split at scanned
    · rcases Option.map_eq_some_iff.1 scanned with ⟨_, _, same⟩
      cases same
      rfl
    · split at scanned
      · cases scanned
        rfl
      · rcases Option.map_eq_some_iff.1 scanned with ⟨_, _, same⟩
        cases same
        rfl

section Parts

variable {item : Scan Node} (keeps : ScansTidy item)

include keeps

theorem tidy_arrayItems {limit : Nat} {text following : List Char} {nodes : List Node}
    (scanned : arrayItems item limit text = some (nodes, following)) :
    ∀ node ∈ nodes, node.Tidy := by
  induction limit generalizing text nodes following with
  | zero => cases scanned
  | succ limit induction =>
      rw [arrayItems] at scanned
      split at scanned
      · cases scanned
        nofun
      · simp only [Option.bind_eq_bind, Option.bind_eq_some_iff] at scanned
        rcases scanned with ⟨⟨first, afterFirst⟩, scannedFirst, scanned⟩
        have tidyFirst := keeps scannedFirst
        dsimp only at scanned
        split at scanned
        · simp only [Option.bind_eq_some_iff] at scanned
          rcases scanned with ⟨⟨others, remaining⟩, scannedOthers, same⟩
          cases same
          exact List.forall_mem_cons.2 ⟨tidyFirst, induction scannedOthers⟩
        · cases scanned
          exact List.forall_mem_cons.2 ⟨tidyFirst, nofun⟩
        · cases scanned

theorem tidy_keyAndValue {text following : List Char} {parents : List String} {last : String}
    {node : Node}
    (scanned : keyAndValue item text = some ((parents, last, node), following)) : node.Tidy := by
  simp only [keyAndValue, Option.bind_eq_bind, Option.bind_eq_some_iff] at scanned
  rcases scanned with ⟨⟨path, afterKey⟩, _, ⟨parents, last⟩, _, scanned⟩
  dsimp only at scanned
  split at scanned
  · simp only [Option.bind_eq_some_iff] at scanned
    rcases scanned with ⟨⟨node, following⟩, scannedValue, same⟩
    cases same
    exact keeps scannedValue
  · cases scanned

theorem tidy_inlineEntries {limit : Nat} {table extended : Table} {text following : List Char}
    (tidy : table.Tidy)
    (scanned : inlineEntries item limit table text = some (extended, following)) :
    extended.Tidy := by
  induction limit generalizing table text with
  | zero => cases scanned
  | succ limit induction =>
      simp only [inlineEntries, Option.bind_eq_bind, Option.bind_eq_some_iff] at scanned
      rcases scanned with
        ⟨⟨⟨parents, last, node⟩, afterEntry⟩, scannedEntry, next, defined, scanned⟩
      have tidyNext := tidy.define (tidy_keyAndValue keeps scannedEntry) defined
      dsimp only at scanned
      split at scanned
      · exact induction tidyNext scanned
      · cases scanned
        exact tidyNext
      · cases scanned

theorem tidy_inlineTable {table : Table} {text following : List Char}
    (scanned : inlineTable item text = some (table, following)) : table.Tidy := by
  unfold inlineTable at scanned
  split at scanned
  · cases scanned
    trivial
  · have opened : Table.opened.Tidy := trivial
    exact tidy_inlineEntries keeps opened scanned

end Parts

theorem scansTidy_value (depth : Nat) : ScansTidy (value depth) := by
  induction depth with
  | zero => exact scansTidy_scalar
  | succ depth induction =>
      intro text node following scanned
      unfold value at scanned
      split at scanned
      · simp only [Option.bind_eq_bind, Option.bind_eq_some_iff] at scanned
        rcases scanned with ⟨⟨nodes, remaining⟩, scannedItems, same⟩
        cases same
        exact .ofList (tidy_arrayItems induction scannedItems)
      · simp only [Option.bind_eq_bind, Option.bind_eq_some_iff] at scanned
        rcases scanned with ⟨⟨table, remaining⟩, scannedTable, same⟩
        cases same
        exact tidy_inlineTable induction scannedTable
      · exact scansTidy_scalar scanned

namespace Assembly.Tidy

variable {assembly next : Assembly} {text following : List Char}

theorem header (tidy : assembly.Tidy)
    (scanned : Toml.header text assembly = some (next, following)) : next.Tidy := by
  unfold Toml.header at scanned
  split at scanned
  · simp only [Option.bind_eq_bind, Option.bind_eq_some_iff] at scanned
    rcases scanned with ⟨⟨path, afterKey⟩, _, scanned⟩
    dsimp only at scanned
    split at scanned
    · simp only [Option.bind_eq_some_iff] at scanned
      rcases scanned with ⟨opened, found, _, _, same⟩
      cases same
      exact tidy.openArrayItem found
    · cases scanned
  · simp only [Option.bind_eq_bind, Option.bind_eq_some_iff] at scanned
    rcases scanned with ⟨⟨path, afterKey⟩, _, scanned⟩
    dsimp only at scanned
    split at scanned
    · simp only [Option.bind_eq_some_iff] at scanned
      rcases scanned with ⟨opened, found, _, _, same⟩
      cases same
      exact tidy.openTable found
    · cases scanned

theorem statement (tidy : assembly.Tidy)
    (scanned : Toml.statement text assembly = some (next, following)) : next.Tidy := by
  unfold Toml.statement at scanned
  split at scanned
  · exact tidy.header scanned
  · split at scanned
    · cases scanned
      exact tidy
    · simp only [Option.bind_eq_bind, Option.bind_eq_some_iff] at scanned
      rcases scanned with ⟨⟨⟨parents, last, node⟩, _⟩, scannedEntry, extended, defined, _, _, same⟩
      cases same
      exact tidy.define (tidy_keyAndValue (scansTidy_value depthLimit) scannedEntry) defined

theorem statements {limit : Nat} (tidy : assembly.Tidy)
    (scanned : Toml.statements limit text assembly = some next) : next.Tidy := by
  induction limit generalizing text assembly with
  | zero => cases scanned
  | succ limit induction =>
      rw [Toml.statements] at scanned
      split at scanned
      · cases scanned
        exact tidy
      · simp only [Option.bind_eq_bind, Option.bind_eq_some_iff] at scanned
        rcases scanned with ⟨⟨following, rest⟩, scannedStatement, scanned⟩
        exact induction (tidy.statement scannedStatement) scanned

end Assembly.Tidy

theorem tidy_of_tableOf? {text : String} {table : Table} (parsed : tableOf? text = some table) :
    table.Tidy := by
  simp only [tableOf?, Option.bind_eq_bind, Option.bind_eq_some_iff] at parsed
  rcases parsed with ⟨assembly, scanned, finished⟩
  exact (Assembly.tidy_start.statements scanned).finish finished

end BucketReplication.Toml
