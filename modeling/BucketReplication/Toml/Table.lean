import BucketReplication.Document.Value

/-! # TOML tables

Tables keep their entries in the order of definition. Parts of a document may
reach into a table only as long as the table is not closed: a header opens a
table once, and dotted keys reach only into tables that no header has opened. -/

namespace BucketReplication.Toml

open Document (Value Items Members)

mutual
/-- What a key stands for. Inline tables are values: they are complete where
they are written and nothing is added to them later. -/
inductive Node where
  | scalar (value : Value)
  | array (nodes : Nodes)
  | inline (table : Table)
  | table (table : Table)
  | tables (tables : Nodes)

inductive Nodes where
  | none
  | node (first : Node) (rest : Nodes)

/-- A table is implicit until a header opens it; it is dotted when a dotted
key made it. -/
inductive Table where
  | mk (implicit dotted : Bool) (entries : Entries)

inductive Entries where
  | none
  | entry (key : String) (node : Node) (rest : Entries)
end

instance : Inhabited Node := ⟨.scalar .null⟩

namespace Nodes

def ofList : List Node → Nodes
  | [] => .none
  | first :: rest => .node first (ofList rest)

def append (last : Node) : Nodes → Nodes
  | .none => .node last .none
  | .node first rest => .node first (rest.append last)

def atLast {α : Type} (act : Node → Option (α × Node)) : Nodes → Option (α × Nodes)
  | .none => Option.none
  | .node last .none => (act last).map fun (result, changed) => (result, .node changed .none)
  | .node first rest => (rest.atLast act).map fun (result, others) => (result, .node first others)

end Nodes

namespace Entries

def lookup (key : String) : Entries → Option Node
  | .none => Option.none
  | .entry name node rest => if name = key then some node else rest.lookup key

def append (key : String) (node : Node) : Entries → Entries
  | .none => .entry key node .none
  | .entry name first rest => .entry name first (rest.append key node)

def replace (key : String) (node : Node) : Entries → Entries
  | .none => .none
  | .entry name first rest =>
    if name = key then .entry name node rest else .entry name first (rest.replace key node)

def erase (key : String) : Entries → Entries
  | .none => .none
  | .entry name first rest =>
    if name = key then rest else .entry name first (rest.erase key)

end Entries

namespace Table

def opened : Table := .mk false false .none

def passed (dotted : Bool) : Table := .mk true dotted .none

def isImplicit : Table → Bool
  | .mk implicit _ _ => implicit

def isDotted : Table → Bool
  | .mk _ dotted _ => dotted

def entries : Table → Entries
  | .mk _ _ entries => entries

def withEntries (table : Table) (entries : Entries) : Table :=
  .mk table.isImplicit table.isDotted entries

def lookup (table : Table) (key : String) : Option Node :=
  table.entries.lookup key

def append (table : Table) (key : String) (node : Node) : Table :=
  table.withEntries (table.entries.append key node)

def replace (table : Table) (key : String) (node : Node) : Table :=
  table.withEntries (table.entries.replace key node)

def erase (table : Table) (key : String) : Table :=
  table.withEntries (table.entries.erase key)

/-- Act on the table at the end of a path. Missing tables are made on the way,
and of an array of tables the last one is entered. A dotted key does not pass
through a table that is opened. -/
def atPath {α : Type} (dotted : Bool) (act : Table → Option (α × Table)) :
    List String → Table → Option (α × Table)
  | [], table => act table
  | key :: rest, table =>
    match table.lookup key with
    | none => do
      let (result, child) ← atPath dotted act rest (.passed dotted)
      return (result, table.append key (.table child))
    | some (.table child) =>
      if dotted && !child.isImplicit then none
      else do
        let (result, changed) ← atPath dotted act rest child
        return (result, table.replace key (.table changed))
    | some (.tables children) => do
      let (result, changed) ← children.atLast fun
        | .table child =>
          (atPath dotted act rest child).map fun (result, table) => (result, .table table)
        | _ => none
      return (result, table.replace key (.tables changed))
    | some _ => none

def changeAt (dotted : Bool) (change : Table → Option Table) (path : List String)
    (table : Table) : Option Table :=
  (table.atPath dotted (fun target => (change target).map fun changed => ((), changed)) path).map
    Prod.snd

/-- Define a dotted key. Its last part must be new, and its table one that
dotted keys made. -/
def define (parents : List String) (key : String) (node : Node) (table : Table) :
    Option Table :=
  table.changeAt true
    (fun target =>
      if target.isDotted = parents.isEmpty then none
      else
        match target.lookup key with
        | some _ => none
        | none => some (target.append key node))
    parents

end Table

mutual
def Node.value : Node → Value
  | .scalar value => value
  | .array nodes => .sequence nodes.items
  | .inline table => .record table.members
  | .table table => .record table.members
  | .tables tables => .sequence tables.items

def Nodes.items : Nodes → Items
  | .none => .closed
  | .node first rest => .item first.value rest.items

def Table.members : Table → Members
  | .mk _ _ entries => entries.members

def Entries.members : Entries → Members
  | .none => .closed
  | .entry key node rest => .member (some key) node.value rest.members
end

/-- A document while it is read: the tables finished so far, and the one that
the last header opened, which takes its place when the next header comes. The
root is the table of the empty path. -/
structure Assembly where
  root : Table
  path : List String
  isArrayItem : Bool
  current : Table

namespace Assembly

def start : Assembly := ⟨.opened, [], false, .opened⟩

def splitLast : List String → Option (List String × String)
  | [] => none
  | [last] => some ([], last)
  | first :: rest => (splitLast rest).map fun (parents, last) => (first :: parents, last)

def finish (assembly : Assembly) : Option Table :=
  match splitLast assembly.path with
  | none => some assembly.current
  | some (parents, key) =>
    assembly.root.changeAt false
      (fun parent =>
        match parent.lookup key with
        | none =>
          if assembly.isArrayItem then
            some (parent.append key (.tables (.node (.table assembly.current) .none)))
          else some (parent.append key (.table assembly.current))
        | some (.tables tables) =>
          if assembly.isArrayItem then
            some (parent.replace key (.tables (tables.append (.table assembly.current))))
          else none
        | some _ => none)
      parents

def define (parents : List String) (key : String) (node : Node) (assembly : Assembly) :
    Option Assembly := do
  let current ← assembly.current.define parents key node
  return { assembly with current }

def continued (parent : Table) (key : String) : Option Table :=
  match parent.lookup key with
  | none => some .opened
  | some (.table child) =>
    if child.isImplicit && !child.isDotted then some (.mk false false child.entries) else none
  | some _ => none

/-- Open the table of a header. A table that was only passed through moves to
the place where it is opened. -/
def openTable (path : List String) (assembly : Assembly) : Option Assembly := do
  let (parents, key) ← splitLast path
  let finished ← assembly.finish
  let (current, root) ← finished.atPath false
    (fun parent => (continued parent key).map fun current => (current, parent.erase key))
    parents
  return { root, path, isArrayItem := false, current }

def openArrayItem (path : List String) (assembly : Assembly) : Option Assembly := do
  let (parents, key) ← splitLast path
  let finished ← assembly.finish
  let root ← finished.changeAt false
    (fun parent =>
      match parent.lookup key with
      | none => some (parent.append key (.tables .none))
      | some (.tables _) => some parent
      | some _ => none)
    parents
  return { root, path, isArrayItem := true, current := .opened }

end Assembly

end BucketReplication.Toml
