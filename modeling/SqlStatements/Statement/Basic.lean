import SqlStatements.Tree.Equality
import SqlStatements.Tree.Visit

/-! Statements: queries, changes of rows, and definitions of tables and
indexes. -/
namespace SqlStatements

/-- Where an insertion takes its rows from. -/
inductive InsertSource where
  | defaults
  | rows (columns : List String) (rows : List (List Expr))
  | query (columns : List String) (query : Query)
deriving DecidableEq

structure Insert where
  table : Table
  source : InsertSource
  returning : List Expr
deriving DecidableEq

def Insert.rowCount (insert : Insert) : Nat :=
  match insert.source with
  | .rows _ rows => rows.length
  | .defaults | .query _ _ => 0

structure Update where
  table : Table
  assignments : List (String × Expr)
  condition : Option Expr
  returning : List Expr
deriving DecidableEq

structure Delete where
  table : Table
  condition : Option Expr
  returning : List Expr
deriving DecidableEq

structure Index where
  name : String
  table : Table
  columns : List String
  unique : Bool
deriving DecidableEq

inductive Statement where
  | query (query : Query)
  | insert (insert : Insert)
  | update (update : Update)
  | delete (delete : Delete)
  | createTable (table : Table) (ifNotExists : Bool)
  | dropTable (table : Table) (ifExists : Bool)
  | createIndex (index : Index)
  | dropIndex (index : Index)
deriving DecidableEq

def InsertSource.visits (enter : Bool) : InsertSource → List Visit
  | .defaults => []
  | .rows _ cells => cells.flatMap (exprsVisits enter)
  | .query _ q => q.visits enter

def Statement.visits (enter : Bool) : Statement → List Visit
  | .query q => q.visits enter
  | .insert s => .table s.table :: (s.source.visits enter ++ exprsVisits enter s.returning)
  | .update s =>
    .table s.table :: (exprsVisits enter (s.assignments.map (·.2)) ++
      optionVisits enter s.condition ++ exprsVisits enter s.returning)
  | .delete s =>
    .table s.table :: (optionVisits enter s.condition ++ exprsVisits enter s.returning)
  | .createTable table _ | .dropTable table _ => [.table table]
  | .createIndex index | .dropIndex index => [.table index.table]

/-- All parameters of a statement, in the order of the clauses. -/
def Statement.binds (s : Statement) : List BindParam :=
  (s.visits true).filterMap Visit.bind?

def Statement.selects (s : Statement) : List Select :=
  (s.visits true).filterMap Visit.select?

end SqlStatements
