import SqlStatements.Schema.Table

/-! A collection of tables under their qualified names, and the order in which
they can be created. -/
namespace SqlStatements

/-- Tables under their qualified names. -/
structure Catalog where
  tables : NameMap Table := {}
deriving DecidableEq

namespace Catalog

/-- Files a table. The same definition may be filed again; a different one under
a name in use is refused. -/
def add (catalog : Catalog) (table : Table) : Except Error (Catalog × Table) :=
  let key := table.key.text
  match catalog.tables.find? key with
  | some existing =>
    if existing = table then .ok (catalog, existing) else .error (.conflict (.redefined key))
  | none => .ok (⟨catalog.tables.insert key table⟩, table)

/-- The names of the tables that a table refers to, in alphabetical order. -/
def dependencies (table : Table) : List String :=
  let columns := table.columns.filterMap fun c => c.references.map (·.table)
  let constraints := table.constraints.filterMap fun c =>
    match c with
    | .foreignKey _ _ target _ _ _ => some target
    | _ => none
  sortedNames (columns ++ constraints)

/-- Tables already placed, names already met, and the tables placed so far. -/
structure Order where
  placed : List String := []
  met : List String := []
  tables : List Table := []

/-- Places a table behind the tables it refers to. A name that has been met is
not followed again, so a cycle is entered once. Every step follows a name for
the first time, and `fuel` is the number of names that may still be met. -/
def visit (catalog : Catalog) : (fuel : Nat) → String → Order → Order
  | 0, _, order => order
  | fuel + 1, key, order =>
    if order.placed.contains key || order.met.contains key then order
    else
      let order := { order with met := key :: order.met }
      match catalog.tables.find? key with
      | none => order
      | some table =>
        let order := ((dependencies table).filter (· != key)).foldl
          (fun order dependency => catalog.visit fuel dependency order) order
        { placed := key :: order.placed, met := order.met.erase key
          tables := order.tables ++ [table] }

/-- The tables, referenced ones before those that refer to them as far as the
references allow it, otherwise by name. -/
def sorted (catalog : Catalog) : List Table :=
  (catalog.tables.names.foldl
    (fun order key => catalog.visit (catalog.tables.size + 2) key order) {}).tables

end Catalog

end SqlStatements
