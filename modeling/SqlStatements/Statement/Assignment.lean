import SqlStatements.Statement.Basic
import SqlStatements.Tree.Construct

/-! Statements built from values under column keys. Keys that name no column
are refused, columns come in the order of the table, and the last value given
for a key counts. -/
namespace SqlStatements

/-- Values under column keys, in the order in which they were given. -/
abbrev Assignments := List (String × Operand)

/-- Refuses keys that name no column of the table. -/
def Table.checkKeys (t : Table) (keys : List String) : Except Error Unit :=
  match sortedNames (keys.filter fun key => (t.column? key).isNone) with
  | [] => .ok ()
  | names => .error (.unconsumed names)

/-- The columns with a value, in the order of the table. -/
def Table.assigned (t : Table) (given : Assignments) : List Column :=
  t.columns.filter fun c => given.any fun (key, _) => key == c.key

/-- The last value given for a column. A plain value becomes a parameter under
the given key, so that it can be replaced when the statement runs again. -/
def Column.cell (c : Column) (given : Assignments) (key : String) : Expr :=
  match given.reverse.find? fun (k, _) => k == c.key with
  | some (_, .expr e) => e
  | some (_, .value v) => .param ⟨key, some v, c.type, false⟩
  | none => .param ⟨key, none, c.type, false⟩

def sameKeys (a b : Assignments) : Bool :=
  a.all (fun (k, _) => b.any fun (k', _) => k' == k) &&
    b.all (fun (k, _) => a.any fun (k', _) => k' == k)

namespace Insert

/-- What an insertion is built from: rows, or columns and a query. -/
structure Parts where
  table : Table
  rows : List Assignments := []
  query : Option (List String × Query) := none
  returning : List Expr := []

def Parts.row (d : Parts) (given : Assignments) : Parts := { d with rows := d.rows ++ [given] }

/-- Adds a value to the last row, or to a first one. -/
def Parts.value (d : Parts) (key : String) (v : Operand) : Parts :=
  match d.rows.reverse with
  | [] => { d with rows := [[(key, v)]] }
  | last :: before => { d with rows := before.reverse ++ [last ++ [(key, v)]] }

/-- The rows of an insertion. One row uses the column keys for its parameters;
each of several rows adds its number to them. -/
def rowsSource (table : Table) : List Assignments → Except Error InsertSource
  | [] | [[]] => .ok .defaults
  | [row] =>
    let columns := table.assigned row
    .ok (.rows (columns.map (·.name)) [columns.map fun c => c.cell row c.key])
  | first :: rest =>
    match (first :: rest).findIdx? fun row => !sameKeys row first with
    | some i => .error (.conflict (.rowShape i))
    | none =>
      let columns := table.assigned first
      .ok (.rows (columns.map (·.name))
        ((first :: rest).mapIdx fun i row =>
          columns.map fun c => c.cell row (c.key ++ "_m" ++ toString i)))

/-- The insertion, if its parts fit each other and the table. -/
def Parts.build (d : Parts) : Except Error Insert :=
  match d.query with
  | some (keys, query) =>
    if !d.rows.isEmpty then .error (.conflict .rowsAndQuery)
    else do
      d.table.checkKeys keys
      let columns := (keys.filterMap d.table.column?).map (·.name)
      return ⟨d.table, .query columns query, d.returning⟩
  | none => do
    d.table.checkKeys (d.rows.flatMap fun row => row.map (·.1))
    let source ← rowsSource d.table d.rows
    return ⟨d.table, source, d.returning⟩

end Insert

def Update.build (table : Table) (given : Assignments) (condition : Option Expr)
    (returning : List Expr) : Except Error Update := do
  table.checkKeys (given.map (·.1))
  if given.isEmpty then throw (.conflict .emptyUpdate)
  let assignments := (table.assigned given).map fun c => (c.name, c.cell given c.key)
  return ⟨table, assignments, condition, returning⟩

def Index.build (name : String) (table : Table) (keys : List String) (unique : Bool) :
    Except Error Index := do
  table.checkKeys keys
  return ⟨name, table, (keys.filterMap table.column?).map (·.name), unique⟩

end SqlStatements
