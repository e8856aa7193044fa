import SqlStatements.Draft.Statement

/-! Compiled statements: the text, and all that is needed to run it again and
again. -/
namespace SqlStatements

/-- Whether parameters stay open or are written out. -/
inductive ParameterMode where
  | placeholders
  | literals
deriving DecidableEq

/-- A parameter of a compiled statement. -/
structure BindInfo where
  /-- The name of its placeholder. -/
  name : String
  /-- The key it was made with. -/
  key : String
  type : SqlType
  /-- The value it was made with. -/
  value : Option Value
  conversion : Option Conversion
  /-- Not shared between occurrences. -/
  unique : Bool
deriving DecidableEq

structure ResultColumn where
  /-- Its place in the row, from zero on. -/
  position : Nat
  name : Option String
  type : SqlType
  conversion : Option Conversion
deriving DecidableEq

inductive StatementKind where
  | select
  | insert
  | update
  | delete
  | definition
deriving DecidableEq

/-- Where an insertion takes the values for the generated column from. -/
inductive IdentitySource where
  /-- From parameters, by name. -/
  | bound (names : List String)
  /-- From the text. -/
  | inline
deriving DecidableEq

/-- What running an insertion needs to know about it. -/
structure InsertInfo where
  table : Table
  /-- The column whose values the server generates. -/
  generated : Option Column
  /-- Where values for it come from nevertheless. -/
  identity : Option IdentitySource
  /-- The id of the new row is fetched after the insertion. -/
  fetchesId : Bool
deriving DecidableEq

structure Compiled where
  sql : String
  /-- The parameters in the order of their first occurrence. -/
  binds : List BindInfo
  /-- The name of the parameter of each placeholder, from left to right. Styles
  that share a placeholder list a shared parameter once. -/
  positional : List String
  placeholders : PlaceholderStyle
  columns : List ResultColumn
  kind : StatementKind
  insert : Option InsertInfo
  /-- The statement hands back values. -/
  returning : Bool
  /-- The name of the dialect. -/
  dialect : String
deriving DecidableEq

def Compiled.bindIndex? (c : Compiled) (name : String) : Option Nat :=
  c.binds.findIdx? fun b => b.name == name

def Statement.kind : Statement → StatementKind
  | .query _ => .select
  | .insert _ => .insert
  | .update _ => .update
  | .delete _ => .delete
  | .createTable _ _ | .dropTable _ _ | .createIndex _ | .dropIndex _ => .definition

/-- Whether a statement hands back values. -/
def Statement.returns : Statement → Bool
  | .insert s => !s.returning.isEmpty
  | .update s => !s.returning.isEmpty
  | .delete s => !s.returning.isEmpty
  | _ => false

/-- The table whose rows a statement changes. -/
def Statement.changes? : Statement → Option TableKey
  | .insert s => some s.table.key
  | .update s => some s.table.key
  | .delete s => some s.table.key
  | _ => none

/-- The names of the shared parameters of a statement, each once. No other
parameter may take one of them. -/
def Statement.sharedNames (rules : IdentifierRules) (s : Statement) : List String :=
  ((s.binds.filter fun b => !b.unique).map fun b => rules.truncate b.key).eraseDups

end SqlStatements
